import ChipEight.Capacity

/-!
# Room for arrays

An array of whole extents can be made exactly if its bytes can be counted and the host has room for
them, however they are multiplied together on the way.

* `Capacity.bytesFor_eq` — the bytes of an array.
* `Capacity.check_eq_ok_iff` — which arrays can be made.
-/

namespace ChipEight

/-- How many elements an array of these extents has. -/
def Capacity.elements (extents : List Nat) : Nat := extents.foldr (· * ·) 1

theorem Capacity.elements_pos {extents : List Nat} (h : ∀ n ∈ extents, 0 < n) :
    0 < elements extents := by
  induction extents with
  | nil => exact Nat.one_pos
  | cons n rest ih =>
    exact Nat.mul_pos (h n List.mem_cons_self) (ih fun m hm => h m (List.mem_cons_of_mem n hm))

/-- An array takes the bytes of all of its elements, if they can be counted. -/
theorem Capacity.bytesFor_eq {each : Nat} {extents : List Nat} (heach : each < countable)
    (h : ∀ n ∈ extents, 0 < n) :
    bytesFor each (extents.map Int.ofNat) =
      if each * elements extents < countable then .ok (each * elements extents)
      else .error .uncountable := by
  induction extents generalizing each with
  | nil => simp [bytesFor, elements, heach]
  | cons n rest ih =>
    have hn : 0 < n := h n List.mem_cons_self
    have hrest : ∀ m ∈ rest, 0 < m := fun m hm => h m (List.mem_cons_of_mem n hm)
    have hsplit : each * elements (n :: rest) = each * n * elements rest :=
      (Nat.mul_assoc each n (elements rest)).symm
    have hle : each * n ≤ each * n * elements rest :=
      Nat.le_mul_of_pos_right (each * n) (elements_pos hrest)
    have hnonneg : ¬ Int.ofNat n < 0 := by
      rw [Int.ofNat_eq_natCast]
      omega
    have hne : ¬ Int.ofNat n = 0 := by
      rw [Int.ofNat_eq_natCast]
      omega
    rw [List.map_cons, bytesFor, if_neg hnonneg, if_neg hne, hsplit]
    show (if countable ≤ each * n then _ else bytesFor (each * n) _) = _
    by_cases hlt : each * n < countable
    · rw [if_neg (Nat.not_le.2 hlt)]
      exact ih hlt hrest
    · -- The product only grows, so what cannot be counted here cannot be counted in the end.
      rw [if_pos (Nat.not_lt.1 hlt), if_neg]
      omega

/-- **An array can be made exactly if its bytes can be counted and there is room for them.** -/
theorem Capacity.check_eq_ok_iff {room each : Nat} {format : String} {extents : List Nat}
    (heach : each < countable) (h : ∀ n ∈ extents, 0 < n) :
    check room format each (extents.map Int.ofNat) = .ok () ↔
      each * elements extents ≤ room ∧ each * elements extents < countable := by
  have hzero : (extents.map Int.ofNat).contains 0 = false := by
    simp only [List.contains_eq_mem, decide_eq_false_iff_not, List.mem_map, not_exists]
    rintro n ⟨hn, hzero⟩
    have hpos := h n hn
    cases hzero
    omega
  rw [check, bytesFor_eq heach h]
  by_cases hcount : each * elements extents < countable
  · rw [if_pos hcount]
    by_cases hfit : each * elements extents ≤ room
    · simp [hfit, hcount]
    · simp only [hfit, hzero, decide_false, Bool.or_self, Bool.false_eq_true, if_false,
        reduceCtorEq, false_and]
  · rw [if_neg hcount]
    simp only [reduceCtorEq, hcount, and_false]

end ChipEight
