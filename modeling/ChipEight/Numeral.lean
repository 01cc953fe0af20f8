import ChipEight.Text.Integer
import ChipEight.Value

/-!
# Written numbers

A number of the host as it is written: a sign, digits with or without a point, and a power of
ten behind an `e`.  Digits alone are a whole number, which is exact; all else is the nearest
floating-point number.  `Infinity` and `NaN` are numbers, too.
-/

namespace ChipEight.Numeral

/-- Whether a character stands before the power of ten. -/
def isMark (c : Char) : Bool := c == 'e' || c == 'E'

/-- The number that decimal digits stand for. -/
def natural (ds : List Char) : Nat := Text.ofDigits (ds.map fun c => c.toNat - '0'.toNat)

/-- A power of ten, which may have a sign. -/
def power : List Char → Int
  | '-' :: ds => -(natural ds : Int)
  | '+' :: ds => natural ds
  | ds => natural ds

/-- The digits before the mark, without the point. -/
def coefficient (cs : List Char) : List Char := (cs.takeWhile (!isMark ·)).filter (· != '.')

/-- How many digits stand behind the point. -/
def places (cs : List Char) : Nat :=
  (((cs.takeWhile (!isMark ·)).dropWhile (· != '.')).drop 1).length

/-- The value of a number without its sign. -/
def unsigned (negative : Bool) (cs : List Char) : Value :=
  match cs with
  | 'I' :: _ => .float (.infinite negative)
  | 'N' :: _ => .float .nan
  | _ =>
    let n := natural (coefficient cs)
    if cs.all Char.isDigit then .int (if negative then -(n : Int) else n)
    else
      .float (Text.Binary64.ofDecimal negative n (coefficient cs).length
        (power ((cs.dropWhile (!isMark ·)).drop 1) - places cs))

/-- The value of a written number. -/
def read (s : String) : Value :=
  match s.toList with
  | '-' :: cs => unsigned true cs
  | cs => unsigned false cs

end ChipEight.Numeral
