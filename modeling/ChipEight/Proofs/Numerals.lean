import ChipEight.Text.Hex

/-!
# Reading numerals back

Numbers are written with a sign, zeros up to a width, and the digits of a base.  None of this
hides the number: a numeral has a value, and the value of what is written is the number.

* `Text.value` — the value of a row of digits, and `Text.signedValue` — of a row of digits
  that may have a sign.
* `Text.value_digits`, `Text.signedValue_hexChars`, `Text.signedValue_decimal` — writing a
  number and reading it again.
* `Text.length_digits_le_succ` — one more digit for every division by the base.
-/

namespace ChipEight.Text

/-! ## Digits -/

/-- The value of a digit. -/
def digitValue (c : Char) : Nat := if c.toNat < 58 then c.toNat - 48 else c.toNat - 55

theorem digitValue_digit {d : Nat} (h : d < 36) : digitValue (digit d) = d := by
  have hall : ∀ d < 36, digitValue (digit d) = d := by decide
  exact hall d h

theorem digit_ne_minus {d : Nat} (h : d < 36) : digit d ≠ '-' := by
  have hall : ∀ d < 36, digit d ≠ '-' := by decide
  exact hall d h

/-- The value of a row of digits, the most significant one first. -/
def value (base : Nat) (cs : List Char) : Nat :=
  cs.foldl (fun n c => base * n + digitValue c) 0

theorem value_append_singleton (base : Nat) (cs : List Char) (c : Char) :
    value base (cs ++ [c]) = base * value base cs + digitValue c := by
  simp only [value, List.foldl_append, List.foldl_cons, List.foldl_nil]

section Base

variable {base : Nat} (hbase : 2 ≤ base) (hle : base ≤ 36)

include hbase hle

/-- Reading the digits of a number gives the number. -/
theorem value_digits (n : Nat) : value base (digits base n) = n := by
  induction n using Nat.strongRecOn with
  | ind n ih =>
    unfold digits
    split
    · rename_i hsmall
      have hd : digitValue (digit n) = n := digitValue_digit (by omega)
      simp [value, hd]
    · rename_i hlarge
      have hdiv : n / base < n := Nat.div_lt_self (by omega) (by omega)
      have hmod : n % base < base := Nat.mod_lt n (by omega)
      rw [value_append_singleton, ih _ hdiv, digitValue_digit (by omega)]
      exact Nat.div_add_mod n base

omit hle in
/-- A numeral is made of the digits below its base. -/
theorem exists_digit_of_mem_digits {n : Nat} {c : Char} (h : c ∈ digits base n) :
    ∃ d < base, c = digit d := by
  induction n using Nat.strongRecOn with
  | ind n ih =>
    unfold digits at h
    split at h
    · rename_i hsmall
      exact ⟨n, by omega, by simpa using h⟩
    · rename_i hlarge
      have hdiv : n / base < n := Nat.div_lt_self (by omega) (by omega)
      rcases List.mem_append.1 h with hfront | hlast
      · exact ih _ hdiv hfront
      · exact ⟨n % base, Nat.mod_lt n (by omega), by simpa using hlast⟩

theorem minus_notMem_digits (n : Nat) : '-' ∉ digits base n := by
  intro h
  obtain ⟨d, hd, hminus⟩ := exists_digit_of_mem_digits hbase h
  exact digit_ne_minus (by omega) hminus.symm

end Base

theorem length_digits_of_lt {base n : Nat} (h : n < base) : (digits base n).length = 1 := by
  unfold digits
  rw [if_pos (Or.inl h)]
  rfl

/-- A number has at most one digit more than what is left of it after a division. -/
theorem length_digits_le_succ (base n : Nat) :
    (digits base n).length ≤ (digits base (n / base)).length + 1 := by
  rw [digits]
  split <;> simp

/-! ## Zeros and signs -/

/-- Zeros in front do not count. -/
theorem value_padLeft (base width : Nat) (cs : List Char) :
    value base (padLeft '0' width cs) = value base cs := by
  have hzeros : ∀ k, value base (List.replicate k '0' ++ cs) = value base cs := by
    intro k
    induction k with
    | zero => rfl
    | succ k ih =>
      rw [List.replicate_succ, List.cons_append, ← ih]
      rfl
  exact hzeros _

/-- The value of a row of digits that may have a sign. -/
def signedValue (base : Nat) : List Char → Int
  | '-' :: cs => -(value base cs : Int)
  | cs => value base cs

theorem signedValue_of_notMem {base : Nat} {cs : List Char} (h : '-' ∉ cs) :
    signedValue base cs = value base cs := by
  unfold signedValue
  split
  · exact absurd List.mem_cons_self h
  · rfl

theorem signedValue_hexChars (width : Nat) (n : Int) :
    signedValue 16 (hexChars width n) = n := by
  unfold hexChars
  split
  · rw [signedValue, value_padLeft, value_digits (by decide) (by decide)]
    omega
  · have hminus : '-' ∉ padLeft '0' width (digits 16 n.natAbs) := by
      have hdigits := minus_notMem_digits (by decide : 2 ≤ 16) (by decide) n.natAbs
      simp [padLeft, hdigits]
    rw [signedValue_of_notMem hminus, value_padLeft, value_digits (by decide) (by decide)]
    omega

theorem signedValue_decimal (n : Int) : signedValue 10 (decimal n).toList = n := by
  have hdigits := minus_notMem_digits (by decide : 2 ≤ 10) (by decide) n.natAbs
  rw [decimal, String.toList_ofList, sign]
  split
  · rw [List.singleton_append, signedValue, value_digits (by decide) (by decide)]
    omega
  · rw [List.nil_append, signedValue_of_notMem hdigits, value_digits (by decide) (by decide)]
    omega

end ChipEight.Text
