import ChipEight.Machine.Basic

/-!
# The call stack as a stack

A stack is sixteen slots and a depth, and `push` and `pop` are total: a push on a full stack drops
the address and still counts, and a pop of an empty one gives zero.  It is `execute_call` and
`execute_return` that look at the depth first.  What makes the slots a stack is an invariant of its
own.

* `Stack.Tidy` — the depth fits, slots from the depth on are clear, and slots below it
  hold addresses a call can come from.  Empty stacks are tidy, and pushing and popping
  within the bounds keep it so.
* `Stack.Tidy.pop_push` — on a tidy stack popping takes back a push exactly.
* `Stack.Extends` — a stack that was built on top of another one.  It stays so while
  calls are opened and closed above it.
-/

namespace ChipEight

namespace Stack

theorem isFull_iff (s : Stack) : s.isFull = true ↔ 16 ≤ s.depth.toNat := by
  simp [isFull]

theorem isEmpty_iff (s : Stack) : s.isEmpty = true ↔ s.depth.toNat = 0 := by
  simp [isEmpty, ← UInt8.toNat_inj]

/-- Stacks are equal if their depths and all their slots are. -/
theorem ext_of {s t : Stack} (hd : s.depth.toNat = t.depth.toNat)
    (hs : ∀ i, (h : i < 16) → s.slots[i] = t.slots[i]) : s = t := by
  obtain ⟨slots, depth⟩ := s
  obtain ⟨slots', depth'⟩ := t
  have hdepth : depth = depth' := UInt8.toNat_inj.1 hd
  have hslots : slots = slots' := Vector.ext hs
  rw [hdepth, hslots]

/-! ## Pushing -/

theorem depth_push {s : Stack} (hd : s.depth.toNat < 16) (a : UInt16) :
    (s.push a).depth.toNat = s.depth.toNat + 1 := by
  simp only [push, UInt8.toNat_add, UInt8.toNat_one]
  omega

/-- The mask of a push loses nothing of an address of twelve bits. -/
theorem and_addressMask {a : UInt16} (h : a.toNat ≤ 0xFFF) : a &&& 0xFFF = a := by
  apply UInt16.toNat_inj.1
  rw [UInt16.toNat_and, show (0xFFF : UInt16).toNat = 2 ^ 12 - 1 from rfl,
    Nat.and_two_pow_sub_one_eq_mod]
  omega

theorem getElem_push {s : Stack} {a : UInt16} (ha : a.toNat ≤ 0xFFF) (i : Nat) (h : i < 16) :
    (s.push a).slots[i] = if s.depth.toNat = i then a else s.slots[i] := by
  simp [push, Vector.getElem_setIfInBounds, and_addressMask ha]

/-! ## Popping -/

/-- Popping a stack that is not empty. -/
theorem pop_of_pos {s : Stack} (hd : 0 < s.depth.toNat) :
    s.pop = (⟨s.slots.setIfInBounds (s.depth.toNat - 1) 0, s.depth - 1⟩,
      s.slots[min (s.depth.toNat - 1) 15]) := by
  have he : s.isEmpty = false := by
    rw [← Bool.not_eq_true, isEmpty_iff]
    omega
  have hlt := s.depth.toNat_lt
  have htop : (s.depth - 1).toNat = s.depth.toNat - 1 := by
    simp only [UInt8.toNat_sub, UInt8.toNat_one]
    omega
  simp only [pop, he, htop, Bool.false_eq_true, if_false]

theorem depth_pop {s : Stack} (hd : 0 < s.depth.toNat) :
    s.pop.1.depth.toNat = s.depth.toNat - 1 := by
  have hlt := s.depth.toNat_lt
  simp only [pop_of_pos hd, UInt8.toNat_sub, UInt8.toNat_one]
  omega

theorem getElem_pop {s : Stack} (hd : 0 < s.depth.toNat) (i : Nat) (h : i < 16) :
    s.pop.1.slots[i] = if s.depth.toNat - 1 = i then 0 else s.slots[i] := by
  simp only [pop_of_pos hd, Vector.getElem_setIfInBounds]

theorem snd_pop {s : Stack} (hd : 0 < s.depth.toNat) (hle : s.depth.toNat ≤ 16) :
    s.pop.2 = s.slots[s.depth.toNat - 1] := by
  simp only [pop_of_pos hd, Nat.min_eq_left (show s.depth.toNat - 1 ≤ 15 by omega)]

/-! ## Tidy stacks -/

/-- What holds of every stack of a machine that goes through its cycles. -/
structure Tidy (s : Stack) : Prop where
  depth_le : s.depth.toNat ≤ 16
  clear_above : ∀ i, (h : i < 16) → s.depth.toNat ≤ i → s.slots[i] = 0
  address_below : ∀ i, (h : i < 16) → i < s.depth.toNat → s.slots[i].toNat ≤ 0xFFE

theorem tidy_empty : empty.Tidy where
  depth_le := by decide
  clear_above i h _ := by simp [empty]
  address_below i _ hi := absurd hi (Nat.not_lt_zero i)

namespace Tidy

variable {s : Stack}

theorem push (hs : s.Tidy) (hd : s.depth.toNat < 16) {a : UInt16} (ha : a.toNat ≤ 0xFFE) :
    (s.push a).Tidy where
  depth_le := by
    rw [depth_push hd]
    omega
  clear_above i h hi := by
    rw [depth_push hd] at hi
    rw [getElem_push (by omega), if_neg (by omega)]
    exact hs.clear_above i h (by omega)
  address_below i h hi := by
    rw [depth_push hd] at hi
    rw [getElem_push (by omega)]
    split
    · exact ha
    · exact hs.address_below i h (by omega)

theorem pop (hs : s.Tidy) (hd : 0 < s.depth.toNat) : s.pop.1.Tidy where
  depth_le := by
    have hle := hs.depth_le
    rw [depth_pop hd]
    omega
  clear_above i h hi := by
    rw [depth_pop hd] at hi
    rw [getElem_pop hd]
    split
    · rfl
    · exact hs.clear_above i h (by omega)
  address_below i h hi := by
    rw [depth_pop hd] at hi
    rw [getElem_pop hd, if_neg (by omega)]
    exact hs.address_below i h (by omega)

theorem snd_pop_le (hs : s.Tidy) (hd : 0 < s.depth.toNat) : s.pop.2.toNat ≤ 0xFFE := by
  have hle := hs.depth_le
  rw [snd_pop hd hle]
  exact hs.address_below _ _ (by omega)

/-- **Popping takes back a push**: the slot that was filled is cleared again, and the
address comes back whole. -/
theorem pop_push (hs : s.Tidy) (hd : s.depth.toNat < 16) {a : UInt16} (ha : a.toNat ≤ 0xFFF) :
    (s.push a).pop = (s, a) := by
  have hp := depth_push hd a
  refine Prod.ext (ext_of ?_ fun i h => ?_) ?_
  · rw [depth_pop (by omega), hp]
    rfl
  · rw [getElem_pop (by omega), getElem_push ha, hp, Nat.add_sub_cancel]
    split
    · exact (hs.clear_above i h (by omega)).symm
    · rfl
  · rw [snd_pop (by omega) (by omega)]
    simp only [hp, Nat.add_sub_cancel]
    rw [getElem_push ha, if_pos rfl]

end Tidy

/-! ## Stacks on top of stacks -/

/-- `s.Extends base`: every call that is open in `base` is still open in `s`, with the same
address. -/
structure Extends (s base : Stack) : Prop where
  depth_le : base.depth.toNat ≤ s.depth.toNat
  same_below : ∀ i, (h : i < 16) → i < base.depth.toNat → s.slots[i] = base.slots[i]

namespace Extends

variable {s base : Stack}

theorem refl (s : Stack) : s.Extends s where
  depth_le := Nat.le_refl _
  same_below _ _ _ := rfl

theorem push (hs : s.Extends base) (hd : s.depth.toNat < 16) {a : UInt16}
    (ha : a.toNat ≤ 0xFFF) : (s.push a).Extends base where
  depth_le := by
    have hle := hs.depth_le
    rw [depth_push hd]
    omega
  same_below i h hi := by
    have hle := hs.depth_le
    rw [getElem_push ha, if_neg (by omega)]
    exact hs.same_below i h hi

/-- Closing a call that was opened above the base. -/
theorem pop (hs : s.Extends base) (hd : base.depth.toNat < s.depth.toNat) :
    s.pop.1.Extends base where
  depth_le := by
    rw [depth_pop (by omega)]
    omega
  same_below i h hi := by
    rw [getElem_pop (by omega), if_neg (by omega)]
    exact hs.same_below i h hi

/-- A tidy stack on top of a tidy one, and no deeper, is that stack. -/
theorem eq_of_depth (h : s.Extends base) (hs : s.Tidy) (hb : base.Tidy)
    (hd : s.depth.toNat = base.depth.toNat) : s = base := by
  refine ext_of hd fun i hi => ?_
  by_cases hlt : i < base.depth.toNat
  · exact h.same_below i hi hlt
  · rw [hs.clear_above i hi (by omega), hb.clear_above i hi (by omega)]

end Extends

end Stack

end ChipEight
