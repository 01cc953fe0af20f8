/-!
# Binary floating-point numbers

Finite numbers with 53 significant binary digits, as a sign, a significand and a power of
two, the two infinities, and what is no number.  Every operation on finite numbers is done
exactly on rationals and rounded once to the nearest such number, a half to the even one;
what lies beyond the greatest of them is infinite.
-/

namespace ChipEight.Text

/-- The quotient of two numbers rounded to the nearest whole number, halves to the even
one. -/
def roundDiv (num den : Nat) : Nat :=
  let q := num / den
  let r := num % den
  if 2 * r < den then q else if den < 2 * r then q + 1 else q + q % 2

/-- The value `significand * 2 ^ exponent`, negated if `negative`. -/
structure Binary64.Finite where
  negative : Bool
  significand : Nat
  exponent : Int
deriving DecidableEq, Repr

/-- A floating-point number. -/
inductive Binary64
  | finite (x : Binary64.Finite)
  | infinite (negative : Bool)
  | nan
deriving DecidableEq, Repr

namespace Binary64

/-- The least power of two there is. -/
def leastExponent : Int := -1074

/-- The greatest power of two that a significand of 53 digits can have. -/
def greatestExponent : Int := 971

/-- Scales a fraction by a power of a base. -/
def scale (base : Nat) (power : Int) (num den : Nat) : Nat × Nat :=
  if 0 ≤ power then (num * Nat.pow base power.toNat, den)
  else (num, den * Nat.pow base (-power).toNat)

/-- The power of two a fraction lies above: `2 ^ k ≤ num / den < 2 ^ (k + 1)`. -/
def binaryOrder (num den : Nat) : Int :=
  let k : Int := (Nat.log2 num : Int) - (Nat.log2 den : Int)
  let (n, d) := scale 2 (-k) num den
  if d ≤ n then k else k - 1

namespace Finite

/-- A zero. -/
def zero (negative : Bool) : Finite := ⟨negative, 0, leastExponent⟩

/-- The magnitude as a fraction. -/
def ratio (x : Finite) : Nat × Nat := scale 2 x.exponent x.significand 1

/-- The exact value. -/
def toRat (x : Finite) : Rat :=
  let (n, d) := x.ratio
  mkRat (if x.negative then -(n : Int) else n) d

/-- The whole number next to it towards zero. -/
def truncate (x : Finite) : Int :=
  let (n, d) := x.ratio
  if x.negative then -((n / d : Nat) : Int) else ((n / d : Nat) : Int)

end Finite

/-- The number nearest to a fraction. -/
def ofRatio (negative : Bool) (num den : Nat) : Binary64 :=
  if num = 0 then .finite (Finite.zero negative)
  else
    let e := max (binaryOrder num den - 52) leastExponent
    let (n, d) := scale 2 (-e) num den
    let m := roundDiv n d
    let x : Finite := if m = 0x20000000000000 then ⟨negative, 0x10000000000000, e + 1⟩
      else ⟨negative, m, e⟩
    if greatestExponent < x.exponent then .infinite negative else .finite x

/-- The number nearest to a rational. -/
def ofRat (r : Rat) : Binary64 := ofRatio (decide (r < 0)) r.num.natAbs r.den

/-- The number nearest to a whole number. -/
def ofInt (n : Int) : Binary64 := ofRatio (decide (n < 0)) n.natAbs 1

/-- The power of ten from which on every number is infinite, and from which on down every
number is zero. -/
def decimalReach : Int := 400

/-- The number nearest to a coefficient of so many digits times a power of ten. -/
def ofDecimal (negative : Bool) (coefficient digits : Nat) (power : Int) : Binary64 :=
  if coefficient = 0 ∨ power + digits < -decimalReach then .finite (Finite.zero negative)
  else if decimalReach < power then .infinite negative
  else
    let (n, d) := scale 10 power coefficient 1
    ofRatio negative n d

/-- Zero, without a sign. -/
def zero : Binary64 := .finite (Finite.zero false)

/-- The exact value of a finite number. -/
def toRat? : Binary64 → Option Rat
  | .finite x => some x.toRat
  | _ => none

/-- Whether it is zero, with either sign. -/
def isZero : Binary64 → Bool
  | .finite x => x.significand == 0
  | _ => false

/-- Whether it is greater than a rational. -/
def exceeds (r : Rat) : Binary64 → Bool
  | .finite x => decide (r < x.toRat)
  | .infinite negative => !negative
  | .nan => false

/-- Whether it is a rational or greater. -/
def reaches (r : Rat) : Binary64 → Bool
  | .finite x => decide (r ≤ x.toRat)
  | .infinite negative => !negative
  | .nan => false

/-- The same magnitude with the other sign. -/
def neg : Binary64 → Binary64
  | .finite x => .finite { x with negative := !x.negative }
  | .infinite negative => .infinite !negative
  | .nan => .nan

/-- The sum.  A sum of zero is negative only if both parts are negative zeros. -/
def add : Binary64 → Binary64 → Binary64
  | .finite x, .finite y =>
    let r := x.toRat + y.toRat
    if r = 0 then
      .finite (Finite.zero (x.negative && y.negative && x.significand == 0 && y.significand == 0))
    else ofRat r
  | .infinite a, .infinite b => if a = b then .infinite a else .nan
  | .infinite a, .finite _ => .infinite a
  | .finite _, .infinite b => .infinite b
  | _, _ => .nan

/-- The difference. -/
def sub (x y : Binary64) : Binary64 := x.add y.neg

/-- The product. -/
def mul : Binary64 → Binary64 → Binary64
  | .finite x, .finite y =>
    let negative := x.negative != y.negative
    let (a, b) := x.ratio
    let (c, d) := y.ratio
    ofRatio negative (a * c) (b * d)
  | .infinite a, .infinite b => .infinite (a != b)
  | .infinite a, .finite y => if y.significand = 0 then .nan else .infinite (a != y.negative)
  | .finite x, .infinite b => if x.significand = 0 then .nan else .infinite (x.negative != b)
  | _, _ => .nan

/-- The quotient. -/
def div : Binary64 → Binary64 → Binary64
  | .finite x, .finite y =>
    let negative := x.negative != y.negative
    if y.significand = 0 then if x.significand = 0 then .nan else .infinite negative
    else
      let (a, b) := x.ratio
      let (c, d) := y.ratio
      ofRatio negative (a * d) (b * c)
  | .infinite a, .finite y => .infinite (a != y.negative)
  | .finite x, .infinite b => .finite (Finite.zero (x.negative != b))
  | _, _ => .nan

end Binary64

end ChipEight.Text
