import ChipEight.Text.Decimal

/-!
# Hexadecimal text

Numbers in base sixteen, upper case, filled with zeros on the left.  A minus sign
stands in front of the zeros and counts as one place of the width, so `-1` in
three places is `-01`.

A row of bytes is read from two digits for each, of either case, with white space
between bytes but not inside them.
-/

namespace ChipEight.Text

/-- A number in at least `width` places. -/
def hexChars (width : Nat) (n : Int) : List Char :=
  if n < 0 then '-' :: padLeft '0' (width - 1) (digits 16 n.natAbs)
  else padLeft '0' width (digits 16 n.natAbs)

/-- The same as text. -/
def hex (width : Nat) (n : Int) : String := String.ofList (hexChars width n)

/-! ## Rows of bytes -/

/-- A text that is no row of bytes, with the place of the first character that is wrong. -/
structure HexError where
  position : Nat
deriving DecidableEq, Repr

/-- The wording of the error. -/
def HexError.message (e : HexError) : String :=
  "non-hexadecimal number found in fromhex() arg at position " ++ decimal e.position

/-- The value of a digit. -/
def hexDigit? (c : Char) : Option Nat :=
  if '0' ≤ c ∧ c ≤ '9' then some (c.toNat - 48)
  else if 'a' ≤ c ∧ c ≤ 'f' then some (c.toNat - 87)
  else if 'A' ≤ c ∧ c ≤ 'F' then some (c.toNat - 55)
  else none

/-- Whether a character may stand between bytes. -/
def separatesBytes (c : Char) : Bool := c == ' ' || decide (9 ≤ c.toNat ∧ c.toNat ≤ 13)

/-- Reads bytes from a text whose first character is at a position.  A byte that lacks its
second digit is wrong behind the end. -/
def readBytesFrom (position : Nat) : List Char → Except HexError (List UInt8)
  | [] => .ok []
  | c :: rest =>
    if separatesBytes c then readBytesFrom (position + 1) rest
    else
      match hexDigit? c, rest with
      | none, _ => .error ⟨position⟩
      | some _, [] => .error ⟨position + 1⟩
      | some high, d :: more =>
        match hexDigit? d with
        | none => .error ⟨position + 1⟩
        | some low =>
          (readBytesFrom (position + 2) more).map (UInt8.ofNat (16 * high + low) :: ·)

/-- Reads bytes.  A character outside of seven bits is looked for before all else. -/
def readBytes (s : String) : Except HexError (List UInt8) :=
  match s.toList.findIdx? fun c => decide (128 ≤ c.toNat) with
  | some position => .error ⟨position⟩
  | none => readBytesFrom 0 s.toList

end ChipEight.Text
