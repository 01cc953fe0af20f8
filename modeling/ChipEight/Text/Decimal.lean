import ChipEight.Text.Digits

/-!
# Decimal text

Whole numbers in base ten, plain or with a comma before every third digit.
-/

namespace ChipEight.Text

/-- A minus sign for the negative numbers. -/
def sign (n : Int) : List Char := if n < 0 then ['-'] else []

/-- A whole number. -/
def decimal (n : Int) : String := String.ofList (sign n ++ digits 10 n.natAbs)

/-- Puts a comma before every third digit, counted from the end. -/
def groupThrees : List Char → List Char
  | [] => []
  | c :: rest =>
    if rest.length % 3 = 0 ∧ rest ≠ [] then c :: ',' :: groupThrees rest
    else c :: groupThrees rest

/-- A whole number with its digits in groups of three. -/
def grouped (n : Int) : String := String.ofList (sign n ++ groupThrees (digits 10 n.natAbs))

end ChipEight.Text
