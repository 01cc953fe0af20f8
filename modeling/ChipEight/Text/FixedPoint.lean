import ChipEight.Text.Shortest

/-!
# Fixed-point text

A number with a fixed count of decimal places, rounded from its exact value, halves
to the even digit.  The sign of a negative number stays when all digits are zero.
-/

namespace ChipEight.Text

/-- A finite number with `places` places behind the point. -/
def fixedFinite (places : Nat) (x : Binary64.Finite) : List Char :=
  let (n, d) := x.ratio
  let ds := padLeft '0' (places + 1) (digits 10 (roundDiv (n * Nat.pow 10 places) d))
  let whole := ds.take (ds.length - places)
  let part := ds.drop (ds.length - places)
  floatSign x ++ whole ++ (if places = 0 then [] else '.' :: part)

/-- A number with `places` places behind the point. -/
def fixedChars (places : Nat) : Binary64 → List Char
  | .finite x => fixedFinite places x
  | .infinite negative => infinityChars negative
  | .nan => nanChars

/-- The same as text. -/
def fixed (places : Nat) (x : Binary64) : String := String.ofList (fixedChars places x)

/-- The same as text, filled with spaces on the left. -/
def fixedRight (width places : Nat) (x : Binary64) : String :=
  String.ofList (padLeft ' ' width (fixedChars places x))

end ChipEight.Text
