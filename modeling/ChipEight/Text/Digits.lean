/-!
# Digits

Numerals in a base, and the filling of text to a width.  All text of the library
is built as lists of characters, on which lengths and uniqueness are easy to state.
-/

namespace ChipEight.Text

/-- The digit of a number below thirty-six, upper case. -/
def digit (d : Nat) : Char :=
  if d < 10 then Char.ofNat (48 + d) else Char.ofNat (55 + d)

/-- The numeral of a number, the most significant digit first; zero has one digit. -/
def digits (base n : Nat) : List Char :=
  if n < base ∨ base < 2 then [digit n] else digits base (n / base) ++ [digit (n % base)]
termination_by n
decreasing_by exact Nat.div_lt_self (by omega) (by omega)

/-- Fills a list up to a width on the left. -/
def padLeft (fill : Char) (width : Nat) (cs : List Char) : List Char :=
  List.replicate (width - cs.length) fill ++ cs

/-- Fills a list up to a width on the right. -/
def padRight (fill : Char) (width : Nat) (cs : List Char) : List Char :=
  cs ++ List.replicate (width - cs.length) fill

theorem length_padLeft (fill : Char) (width : Nat) (cs : List Char) :
    (padLeft fill width cs).length = max width cs.length := by
  simp only [padLeft, List.length_append, List.length_replicate]
  omega

theorem digits_ne_nil (base n : Nat) : digits base n ≠ [] := by
  unfold digits
  split <;> simp

end ChipEight.Text
