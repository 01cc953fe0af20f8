import ChipEight.Whole

/-!
# Numbers as bytes

`load_program` makes bytes of whatever it is handed, and a host may hand over whole numbers.  A list
of the numbers of bytes is read back as these bytes (`bytesOf_numbers`), and one with another number
is not read beyond the first of them (`bytesOf_stray`).
-/

namespace ChipEight

/-- Whether a number is one of a byte. -/
def IsByte (n : Int) : Prop := 0 ≤ n ∧ n ≤ 255

instance (n : Int) : Decidable (IsByte n) := inferInstanceAs (Decidable (0 ≤ n ∧ n ≤ 255))

theorem holds_byte_iff (n : Int) : WordFormat.byte.holds n = true ↔ IsByte n := decide_eq_true_iff

theorem isByte_toNat (b : UInt8) : IsByte b.toNat := by
  have hb := b.toNat_lt
  constructor <;> omega

theorem toNat_of_isByte {n : Int} (h : IsByte n) : ((UInt8.ofNat n.toNat).toNat : Int) = n := by
  obtain ⟨hlow, hhigh⟩ := h
  rw [UInt8.toNat_ofNat']
  omega

theorem byte_int_of_isByte {n : Int} (h : IsByte n) :
    (Value.int n).byte = .ok (UInt8.ofNat n.toNat) := by
  have hholds : WordFormat.byte.holds n = true := (holds_byte_iff n).2 h
  simp only [Value.byte, Value.word, Value.whole, WordFormat.fit, if_pos hholds, Except.map]

/-- The number of a byte is read as this byte. -/
theorem byte_int_toNat (b : UInt8) : (Value.int b.toNat).byte = .ok b := by
  rw [byte_int_of_isByte (isByte_toNat b), Int.toNat_natCast, UInt8.ofNat_toNat]

/-- What is said of a number that is no byte. -/
def strayError (n : Int) : WordError :=
  if isLong n then .outOfRange n "uint8" else .tooWide

theorem byte_int_of_not_isByte {n : Int} (h : ¬ IsByte n) :
    (Value.int n).byte = .error (strayError n) := by
  have hholds : ¬ WordFormat.byte.holds n = true := fun hn => h ((holds_byte_iff n).1 hn)
  simp only [Value.byte, Value.word, Value.whole, WordFormat.fit, if_neg hholds, strayError]
  split <;> rfl

/-- **The numbers of bytes are read back.** -/
theorem bytesOf_numbers (bytes : List UInt8) :
    bytesOf (bytes.map fun b => Value.int b.toNat) = .ok bytes := by
  induction bytes with
  | nil => rfl
  | cons b rest ih =>
    rw [List.map_cons, bytesOf, byte_int_toNat, ih]
    rfl

/-- **A number that is no byte is noticed**, and of several the first one is. -/
theorem bytesOf_stray {ns : List Int} (h : ∃ n ∈ ns, ¬ IsByte n) :
    ∃ front n rest, ns = front ++ n :: rest ∧ (∀ b ∈ front, IsByte b) ∧ ¬ IsByte n ∧
      bytesOf (ns.map .int) = .error (strayError n) := by
  induction ns with
  | nil => simp at h
  | cons a ns ih =>
    by_cases ha : IsByte a
    · obtain ⟨n, hn, hstray⟩ := h
      have hin : n ∈ ns := by
        rcases List.mem_cons.1 hn with rfl | hin
        · exact absurd ha hstray
        · exact hin
      obtain ⟨front, first, rest, hsplit, hfront, hfirst, hread⟩ := ih ⟨n, hin, hstray⟩
      refine ⟨a :: front, first, rest, by rw [hsplit, List.cons_append], ?_, hfirst, ?_⟩
      · intro b hb
        rcases List.mem_cons.1 hb with rfl | hb
        · exact ha
        · exact hfront b hb
      · rw [List.map_cons, bytesOf, byte_int_of_isByte ha, hread]
        rfl
    · refine ⟨[], a, ns, rfl, by simp, ha, ?_⟩
      rw [List.map_cons, bytesOf, byte_int_of_not_isByte ha]

end ChipEight
