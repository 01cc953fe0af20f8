import ChipEight.Text.Binary64
import ChipEight.Text.Decimal

/-!
# Shortest text of a floating-point number

The fewest decimal digits that read back as the same number, the nearest of them if
there are several.  Numbers from `1e-4` up to below `1e16` are written positionally,
all others with an exponent of at least two digits.
-/

namespace ChipEight.Text

/-- The value `coefficient * 10 ^ power`. -/
structure Decimal where
  coefficient : Nat
  power : Int
deriving DecidableEq, Repr

namespace Decimal

/-- Moves zeros at the end of the coefficient into the power. -/
def dropZeros (fuel : Nat) (d : Decimal) : Decimal :=
  match fuel with
  | 0 => d
  | fuel + 1 =>
    if d.coefficient % 10 = 0 ∧ d.coefficient ≠ 0 then
      dropZeros fuel ⟨d.coefficient / 10, d.power + 1⟩
    else d

/-- The position of the first digit of a fraction: `10 ^ k ≤ num / den < 10 ^ (k + 1)`. -/
def order (num den : Nat) : Int :=
  if den ≤ num then ((digits 10 (num / den)).length : Int) - 1
  else
    let places := (digits 10 (den / num)).length
    if den ≤ num * Nat.pow 10 (places - 1) then 1 - (places : Int) else -(places : Int)

/-- The reals that round to a number, as quarters of its last place: the value itself is
at `4 * significand`.  Below a power of two the next number is only half as far. -/
def interval (x : Binary64.Finite) : Nat × Nat :=
  let m := x.significand
  let low := if m = 0x10000000000000 ∧ Binary64.leastExponent < x.exponent then 4 * m - 1
    else 4 * m - 2
  (low, 4 * m + 2)

/-- Whether a decimal reads back as `x`; the ends of the interval do if the significand
is even. -/
def readsBack (x : Binary64.Finite) (d : Decimal) : Bool :=
  let (low, high) := interval x
  let (n, q) := Binary64.scale 10 d.power d.coefficient 1
  let (n, q) := Binary64.scale 2 (2 - x.exponent) n q
  if x.significand % 2 = 0 then decide (low * q ≤ n ∧ n ≤ high * q)
  else decide (low * q < n ∧ n < high * q)

/-- The decimal of `count` digits that reads back as `x`, if there is one. -/
def ofDigitCount? (x : Binary64.Finite) (count : Nat) : Option Decimal :=
  let (num, den) := x.ratio
  let power := order num den - ((count : Int) - 1)
  let (n, d) := Binary64.scale 10 (-power) num den
  let below : Decimal := ⟨n / d, power⟩
  let above : Decimal := ⟨n / d + 1, power⟩
  match readsBack x below, readsBack x above with
  | true, true => some ⟨roundDiv n d, power⟩
  | true, false => some below
  | false, true => some above
  | false, false => none

/-- The shortest decimal of a number; seventeen digits always suffice. -/
def shortest (x : Binary64.Finite) : Decimal :=
  if x.significand = 0 then ⟨0, 0⟩
  else
    match (List.range 17).findSome? fun i => ofDigitCount? x (i + 1) with
    | some d => dropZeros 20 d
    | none => ⟨x.truncate.natAbs, 0⟩

end Decimal

/-- Digits with the point behind the first `point` of them, filled with zeros where the
point lies outside. -/
def positional (ds : List Char) (point : Int) : List Char :=
  if point ≤ 0 then '0' :: '.' :: (List.replicate (-point).toNat '0' ++ ds)
  else if point.toNat < ds.length then
    ds.take point.toNat ++ '.' :: ds.drop point.toNat
  else padRight '0' point.toNat ds ++ ['.', '0']

/-- Digits with an exponent. -/
def exponential (ds : List Char) (exponent : Int) : List Char :=
  let lead := match ds with
    | [] => []
    | [c] => [c]
    | c :: rest => c :: '.' :: rest
  lead ++ 'e' :: (if exponent < 0 then '-' else '+') ::
    padLeft '0' 2 (digits 10 exponent.natAbs)

/-- The shortest text of a magnitude. -/
def shortestChars (x : Binary64.Finite) : List Char :=
  let d := Decimal.shortest x
  let ds := digits 10 d.coefficient
  let point := d.power + (ds.length : Int)
  if -4 < point ∧ point ≤ 16 then positional ds point else exponential ds (point - 1)

/-- A minus sign for the numbers that have one. -/
def floatSign (x : Binary64.Finite) : List Char := if x.negative then ['-'] else []

/-- The text of what is not finite. -/
def infinityChars (negative : Bool) : List Char :=
  if negative then ['-', 'i', 'n', 'f'] else ['i', 'n', 'f']

/-- The text of what is no number. -/
def nanChars : List Char := ['n', 'a', 'n']

/-- The shortest text of a number. -/
def shortest : Binary64 → String
  | .finite x => String.ofList (floatSign x ++ shortestChars x)
  | .infinite negative => String.ofList (infinityChars negative)
  | .nan => String.ofList nanChars

/-- The shortest text of a number, with the digits in front of the point in groups of
three. -/
def shortestGrouped : Binary64 → String
  | .finite x =>
    let cs := shortestChars x
    let isWhole (c : Char) : Bool := c ≠ '.' && c ≠ 'e'
    String.ofList (floatSign x ++ groupThrees (cs.takeWhile isWhole) ++ cs.dropWhile isWhole)
  | x => shortest x

end ChipEight.Text
