import ChipEight.Text.Capitals
import ChipEight.Text.Cased

/-!
# Lower case

A text in small letters.  Two capitals need more than the table: the dotted capital I
becomes two characters, and the small letter of a capital sigma is another one at the
end of a word, so a character is lowered with what stands around it.
-/

namespace ChipEight.Text

/-- Whether the nearest character that counts has a case. -/
def meetsCased (cs : List Char) : Bool :=
  match cs.dropWhile isSkipped with
  | [] => false
  | c :: _ => isCased c

/-- Whether a word ends between what stands before, nearest first, and what follows. -/
def endsWord (before after : List Char) : Bool := meetsCased before && !meetsCased after

/-- The small letters of a character; any but a capital stays as it is. -/
def lowerChar (before : List Char) (c : Char) (after : List Char) : List Char :=
  if c.toNat = 0x130 then ['i', Char.ofNat 0x307]
  else if c.toNat = 0x3A3 then [Char.ofNat (if endsWord before after then 0x3C2 else 0x3C3)]
  else
    match smallLetter? c.toNat with
    | some n => [Char.ofNat n]
    | none => [c]

/-- The rest of a text in small letters, with what stands before it, nearest first. -/
def lowerFrom (before : List Char) : List Char → List Char
  | [] => []
  | c :: rest => lowerChar before c rest ++ lowerFrom (c :: before) rest

/-- A text in small letters. -/
def lower (cs : List Char) : List Char := lowerFrom [] cs

end ChipEight.Text
