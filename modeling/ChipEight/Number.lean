import ChipEight.Text.FixedPoint
import ChipEight.Value

/-!
# Numbers of the host

A time or a rate as the host gives it: a whole number of any size, which stays exact as
long as it meets only its like, or a floating-point number.
-/

namespace ChipEight

/-- A whole number beyond all floating-point numbers. -/
inductive NumberError
  | tooLarge
deriving DecidableEq, Repr

/-- The wording of the error. -/
def NumberError.message : NumberError → String
  | .tooLarge => "int too large to convert to float"

/-- A number of the host. -/
inductive Number
  | whole (n : Int)
  | float (x : Text.Binary64)
deriving DecidableEq, Repr

namespace Number

/-- The number a value is, truth values counting as one and zero. -/
def ofValue? : Value → Option Number
  | .int n => some (.whole n)
  | .bool b => some (.whole (if b then 1 else 0))
  | .float x => some (.float x)
  | _ => none

/-- The value a number is. -/
def toValue : Number → Value
  | .whole n => .int n
  | .float x => .float x

/-- A number as it is shown. -/
def shown (x : Number) : String := x.toValue.shown

/-- The nearest floating-point number. -/
def toFloat : Number → Except NumberError Text.Binary64
  | .float x => .ok x
  | .whole n =>
    match Text.Binary64.ofInt n with
    | .infinite _ => .error .tooLarge
    | x => .ok x

/-- The difference. -/
def sub : Number → Number → Except NumberError Number
  | .whole a, .whole b => .ok (.whole (a - b))
  | x, y => do return .float ((← x.toFloat).sub (← y.toFloat))

/-- The sum.  A whole number beyond all floating-point numbers counts as infinite beside
one of them. -/
def add : Number → Number → Number
  | .whole a, .whole b => .whole (a + b)
  | .whole a, .float y => .float ((Text.Binary64.ofInt a).add y)
  | .float x, .whole b => .float (x.add (Text.Binary64.ofInt b))
  | .float x, .float y => .float (x.add y)

/-- So many times a number. -/
def times (count : Nat) : Number → Number
  | .whole n => .whole (count * n)
  | .float x => .float ((Text.Binary64.ofInt count).mul x)

/-- A count divided by a number that is not zero. -/
def share (count : Int) : Number → Text.Binary64
  | .whole n => Text.Binary64.ofRat (mkRat count 1 / mkRat n 1)
  | .float x => (Text.Binary64.ofInt count).div x

/-- Whether it is less than a whole number. -/
def isBelow (n : Int) : Number → Bool
  | .whole m => decide (m < n)
  | .float x => x.neg.exceeds (-n)

/-- Whether it is more than a whole number. -/
def isAbove (n : Int) : Number → Bool
  | .whole m => decide (n < m)
  | .float x => x.exceeds n

/-- Whether it is one or more. -/
def reachesOne : Number → Bool
  | .whole n => decide (1 ≤ n)
  | .float x => x.reaches 1

/-- A number with so many places behind the point. -/
def fixed (places : Nat) (x : Number) : Except NumberError String :=
  x.toFloat.map (Text.fixed places)

/-- A number with so many places behind the point, filled with spaces on the left. -/
def fixedRight (width places : Nat) (x : Number) : Except NumberError String :=
  x.toFloat.map (Text.fixedRight width places)

/-- Whole numbers are added exactly. -/
theorem add_whole (a b : Int) : add (.whole a) (.whole b) = .whole (a + b) := rfl

end Number

end ChipEight
