import ChipEight.Proofs.Invariant

/-!
# What a cycle may change

A cycle (`step`) rebuilds the whole state, but it has the right to change little of it, and what it
may change can be told from its word.  The state is gone through here field by field: for each one
there is the set of words that may change it, and with any other word the field is after the cycle
what it was before.

* `Instruction.Assigns` — the registers an instruction may change, and
  `Machine.get_registersAfter_of_not_assigns` — the others keep their bytes.
* `Instruction.AssignedBy`, `Instruction.ShownBy`, `Instruction.PointedBy` — the same for the
  registers, the screen and the index, on the nibbles of a word.
* `Machine.Writes` — the law for all fields, one line for each.
* `Machine.writes_cycle` — every cycle that goes well obeys it, in both modes.

Memory has a law of its own, and where a cycle goes on is not a matter of what it may change.
-/

namespace ChipEight

/-! ## The registers of an instruction -/

/-- Whether an operation puts a flag into the last register. -/
def AluOp.flags : AluOp → Bool
  | .add => true
  | .sub => true
  | .shiftRight => true
  | .subReversed => true
  | .shiftLeft => true
  | _ => false

theorem AluOp.flag_apply_of_not_flags {op : AluOp} (h : op.flags = false) (mode : Mode)
    (a b : UInt8) : (op.apply mode a b).flag = none := by
  cases op with
  | copy | or | and | xor => rfl
  | _ => cases h

namespace Instruction

/-- `i.Assigns r`: the instruction `i` may change the register `r`. -/
def Assigns : Instruction → Nibble → Prop
  | .load x _, r => r = x
  | .increase x _, r => r = x
  | .alu op x _, r => r = x ∨ (r = 15 ∧ op.flags = true)
  | .random x _, r => r = x
  | .draw _ _ _, r => r = 15
  | .readDelay x, r => r = x
  | .awaitKey x, r => r = x
  | .restore x, r => r ≤ x
  | _, _ => False

end Instruction

namespace Machine

theorem get_setRegister_of_ne {m : Machine} {x r : Nibble} (h : r ≠ x) (b : UInt8) :
    (m.setRegister x b).registers.get r = m.register r := by
  have hset := register_setRegister m x r b
  rw [if_neg (Ne.symm h)] at hset
  exact hset

theorem get_putResult_of_ne {m : Machine} {x r : Nibble} {result : Arithmetic.Result}
    (hx : r ≠ x) (hflag : r = 15 → result.flag = none) :
    (m.putResult x result).registers.get r = m.register r := by
  unfold putResult
  split
  · exact get_setRegister_of_ne hx _
  · rename_i f hf
    have hlast : r ≠ 15 := by
      intro hr
      rw [hflag hr] at hf
      cases hf
    rw [get_setRegister_of_ne hlast]
    exact get_setRegister_of_ne hx _

theorem get_restored_of_lt {m : Machine} {x r : Nibble} (h : x < r) :
    (m.restored x).get r = m.register r := by
  obtain ⟨r, hr⟩ := r
  have hlt : ¬ r ≤ x.val := Nat.not_le.2 h
  simp only [restored, get_mk, Vector.getElem_ofFn, if_neg hlt]

/-- **The registers an instruction does not assign keep their bytes.** -/
theorem get_registersAfter_of_not_assigns {m : Machine} {i : Instruction} {r : Nibble}
    (h : ¬ i.Assigns r) : (m.registersAfter i).get r = m.register r := by
  cases i with
  | load x b | increase x b | random x b | readDelay x => exact get_setRegister_of_ne h _
  | draw x y rows => exact get_setRegister_of_ne h _
  | alu op x y =>
    simp only [Instruction.Assigns, not_or, not_and, Bool.not_eq_true] at h
    refine get_putResult_of_ne h.1 ?_
    intro hr
    exact AluOp.flag_apply_of_not_flags (h.2 hr) ..
  | awaitKey x =>
    simp only [registersAfter]
    split
    · rfl
    · exact get_setRegister_of_ne h _
  | restore x => exact get_restored_of_lt (by simpa [Instruction.Assigns] using h)
  | _ => rfl

end Machine

/-! ## The sets of words -/

namespace Instruction

/-- The words that may change the register `r`: those that name it as their destination, the
operations that put a flag into the last register, and the transfer that reaches it. -/
def AssignedBy (r : Nibble) (w : Nat) : Prop :=
  (r.val = w / 256 % 16 ∧
    (w / 4096 ∈ [0x6, 0x7, 0xC] ∨
      (w / 4096 = 0x8 ∧ w % 16 ∈ [0x0, 0x1, 0x2, 0x3, 0x4, 0x5, 0x6, 0x7, 0xE]) ∨
      (w / 4096 = 0xF ∧ w % 256 ∈ [0x07, 0x0A]))) ∨
  (r.val = 0xF ∧
    ((w / 4096 = 0x8 ∧ w % 16 ∈ [0x4, 0x5, 0x6, 0x7, 0xE]) ∨ w / 4096 = 0xD)) ∨
  (r.val ≤ w / 256 % 16 ∧ w / 4096 = 0xF ∧ w % 256 = 0x65)

/-- The words that may change the screen. -/
def ShownBy (w : Nat) : Prop := (w / 4096 = 0x0 ∧ w % 256 = 0xE0) ∨ w / 4096 = 0xD

/-- The words that may change the index; moving registers moves it in the legacy dialect. -/
def PointedBy (mode : Mode) (w : Nat) : Prop :=
  w / 4096 = 0xA ∨ (w / 4096 = 0xF ∧ w % 256 ∈ [0x1E, 0x29]) ∨
  (mode = .legacy ∧ w / 4096 = 0xF ∧ w % 256 ∈ [0x55, 0x65])

variable {w : Nat} {i : Instruction}

theorem nibble_mem (op : AluOp) :
    op.nibble ∈ [0x0, 0x1, 0x2, 0x3, 0x4, 0x5, 0x6, 0x7, 0xE] := by
  cases op <;> decide

theorem nibble_mem_of_flags {op : AluOp} (h : op.flags = true) :
    op.nibble ∈ [0x4, 0x5, 0x6, 0x7, 0xE] := by
  cases op with
  | copy | or | and | xor => cases h
  | _ => decide

theorem assignedBy_of_assigns (hi : i.Pattern w) {r : Nibble} (h : i.Assigns r) :
    AssignedBy r w := by
  cases i with
  | load x b | increase x b | random x b =>
    obtain rfl : r = x := h
    exact Or.inl ⟨hi.2.1.symm, Or.inl (by simp [hi.1])⟩
  | alu op x y =>
    obtain ⟨hf, hx, -, hn⟩ := hi
    rcases h with rfl | ⟨rfl, hflags⟩
    · exact Or.inl ⟨hx.symm, Or.inr (Or.inl ⟨hf, hn ▸ nibble_mem op⟩)⟩
    · exact Or.inr (Or.inl ⟨rfl, Or.inl ⟨hf, hn ▸ nibble_mem_of_flags hflags⟩⟩)
  | draw x y rows =>
    obtain rfl : r = 15 := h
    exact Or.inr (Or.inl ⟨rfl, Or.inr hi.1⟩)
  | readDelay x | awaitKey x =>
    obtain rfl : r = x := h
    exact Or.inl ⟨hi.2.1.symm, Or.inr (Or.inr ⟨hi.1, by simp [hi.2.2]⟩)⟩
  | restore x =>
    obtain ⟨hf, hx, hb⟩ := hi
    refine Or.inr (Or.inr ⟨?_, hf, hb⟩)
    rw [hx]
    exact h
  | _ => exact absurd h id

theorem paints_iff (hi : i.Pattern w) : i.paints = true ↔ ShownBy w := by
  cases i with
  | clear => exact iff_of_true rfl (Or.inl hi)
  | draw x y rows => exact iff_of_true rfl (Or.inr hi.1)
  | ret =>
    simp only [Pattern] at hi
    simp [paints, ShownBy, hi]
  | skipIf t =>
    cases t <;> simp only [Pattern, Test.Pattern] at hi <;> simp [paints, ShownBy, hi]
  | _ =>
    simp only [Pattern] at hi
    simp [paints, ShownBy, hi]

end Instruction

/-! ## The law -/

namespace Machine

open Instruction

/-- `m.Writes w m'`: between `m` and `m'` nothing changed that the word `w` may not change. -/
structure Writes (m : Machine) (w : Nat) (m' : Machine) : Prop where
  mode : m'.mode = m.mode
  keypad : m'.keypad = m.keypad
  key : w / 4096 ≠ 0xC → m'.key = m.key
  screen : ¬ ShownBy w → m'.screen = m.screen
  redraw : ¬ ShownBy w → m'.redraw = m.redraw
  /-- What changes the screen asks for it to be shown. -/
  shown : ShownBy w → m'.redraw = true
  stack : w / 4096 ≠ 0x2 → ¬ (w / 4096 = 0x0 ∧ w % 256 = 0xEE) → m'.stack = m.stack
  call : w / 4096 = 0x2 → m'.stack.depth.toNat = m.stack.depth.toNat + 1
  ret : w / 4096 = 0x0 → w % 256 = 0xEE → m.stack.depth.toNat = m'.stack.depth.toNat + 1
  index : ¬ PointedBy m.mode w → m'.index = m.index
  register : ∀ r, ¬ AssignedBy r w → m'.register r = m.register r
  /-- A timer that is not set ticks down by one, or stays at zero. -/
  delay : ¬ (w / 4096 = 0xF ∧ w % 256 = 0x15) → m'.delay.toNat = m.delay.toNat - 1
  sound : ¬ (w / 4096 = 0xF ∧ w % 256 = 0x18) → m'.sound.toNat = m.sound.toNat - 1

section

variable {m : Machine} {w : Nat} {i : Instruction}

theorem keyAfter_of_pattern (hi : i.Pattern w) (h : w / 4096 ≠ 0xC) :
    m.keyAfter i = m.key := by
  cases i with
  | random x b => exact absurd hi.1 h
  | _ => rfl

theorem delayAfter_of_pattern (hi : i.Pattern w) (h : ¬ (w / 4096 = 0xF ∧ w % 256 = 0x15)) :
    m.delayAfter i = m.delay := by
  cases i with
  | setDelay x => exact absurd ⟨hi.1, hi.2.2⟩ h
  | _ => rfl

theorem soundAfter_of_pattern (hi : i.Pattern w) (h : ¬ (w / 4096 = 0xF ∧ w % 256 = 0x18)) :
    m.soundAfter i = m.sound := by
  cases i with
  | setSound x => exact absurd ⟨hi.1, hi.2.2⟩ h
  | _ => rfl

theorem stackAfter_of_pattern (hi : i.Pattern w) (hcall : w / 4096 ≠ 0x2)
    (hret : ¬ (w / 4096 = 0x0 ∧ w % 256 = 0xEE)) : m.stackAfter i = m.stack := by
  cases i with
  | call a => exact absurd hi.1 hcall
  | ret => exact absurd hi hret
  | _ => rfl

/-- Moving registers moves the index in the legacy dialect only. -/
theorem index_movedIndex_of_modern (h : m.mode ≠ .legacy) (x : Nibble) :
    (m.movedIndex x).index = m.index := by
  unfold movedIndex
  split
  · rename_i hmode
    exact absurd hmode h
  · rfl

theorem indexAfter_of_pattern (hi : i.Pattern w) (h : ¬ PointedBy m.mode w) :
    m.indexAfter i = m.index := by
  cases i with
  | setIndex a => exact absurd (Or.inl hi.1) h
  | addIndex x | glyph x =>
    exact absurd (Or.inr (Or.inl ⟨hi.1, by simp [hi.2.2]⟩)) h
  | store x | restore x =>
    refine index_movedIndex_of_modern ?_ x
    intro hmode
    exact h (Or.inr (Or.inr ⟨hmode, hi.1, by simp [hi.2.2]⟩))
  | _ => rfl

/-- The law for the word that was fetched. -/
theorem writes_of_fetches (hok : m.cycle.error = 0) (hw : m.Fetches w) (h : m.Executes i)
    (hi : i.Pattern w) : m.Writes w m.cycle where
  mode := h.mode_cycle
  keypad := h.keypad_cycle
  key hrandom := by rw [h.key_cycle, keyAfter_of_pattern hi hrandom]
  screen hshown := by
    refine h.screen_cycle ?_
    rw [← Bool.not_eq_true, paints_iff hi]
    exact hshown
  redraw hshown := by
    have hpaints : i.paints = false := by
      rw [← Bool.not_eq_true, paints_iff hi]
      exact hshown
    rw [h.redraw_cycle, hpaints, Bool.or_false]
  shown hshown := by rw [h.redraw_cycle, (paints_iff hi).2 hshown, Bool.or_true]
  stack hcall hret := by rw [h.stack_cycle, stackAfter_of_pattern hi hcall hret]
  call hf := by
    have hcall := executes_of_pattern (i := .call (Fin.ofNat 4096 w)) hok hw ⟨hf, rfl⟩
    rw [hcall.stack_cycle]
    exact Stack.depth_push hcall.depth_lt _
  ret hf hb := by
    have hret := executes_of_pattern (i := .ret) hok hw ⟨hf, hb⟩
    have hpos := hret.depth_pos
    rw [hret.stack_cycle, stackAfter, Stack.depth_pop hpos]
    omega
  index hpointed := by rw [h.index_cycle, indexAfter_of_pattern hi hpointed]
  register r hr := by
    rw [register, h.registers_cycle]
    refine get_registersAfter_of_not_assigns ?_
    intro hassigns
    exact hr (assignedBy_of_assigns hi hassigns)
  delay hset := by rw [h.delay_cycle, delayAfter_of_pattern hi hset]
  sound hset := by rw [h.sound_cycle, soundAfter_of_pattern hi hset]

end

/-- **What a cycle may change.**  A cycle that ends without a fault had a whole word at the
program counter, and it changed nothing but what this word may change, in both modes and from
every state. -/
theorem writes_cycle {m : Machine} (hok : m.cycle.error = 0) :
    ∃ w, m.Fetches w ∧ m.Writes w m.cycle := by
  obtain ⟨i, hi⟩ := executes_of_error_cycle hok
  obtain ⟨hw, hpattern⟩ := hi.fetches
  exact ⟨m.word, hw, writes_of_fetches hok hw hi hpattern⟩

/-- A machine that is about to read three registers from memory while a timer runs. -/
def restoring : Machine :=
  { fresh .legacy ⟨0, 0⟩ with
    index := 0x300
    delay := 5
    registers := Vector.replicate 16 7
    memory := (Memory.fresh.write 0x200 0xF2).write 0x201 0x65 }

/-- The registers behind the third one keep their bytes, and the timer ticks. -/
theorem writes_cycle_restoring :
    restoring.cycle.error = 0 ∧ restoring.Fetches 0xF265 ∧
      (∀ r : Nibble, 2 < r → restoring.cycle.register r = 7) ∧
      restoring.cycle.stack = Stack.empty ∧ restoring.cycle.delay.toNat = 4 ∧
      restoring.cycle.screen = Screen.dark := by
  have hok : restoring.cycle.error = 0 := by decide +kernel
  have hword : restoring.word = 0xF265 := by decide +kernel
  have hseven : ∀ r : Nibble, restoring.register r = 7 := by decide
  obtain ⟨w, hw, hlaw⟩ := writes_cycle hok
  obtain rfl : w = 0xF265 := (fetches_iff.1 hw).2.trans hword
  refine ⟨hok, hw, ?_, hlaw.stack (by decide) (by decide), hlaw.delay (by decide), ?_⟩
  · intro r hr
    have hlt : 2 < r.val := hr
    have hkept : ¬ AssignedBy r 0xF265 := by
      rintro (⟨hx, -⟩ | ⟨-, hf⟩ | ⟨hle, -⟩)
      · omega
      · simp at hf
      · omega
    rw [hlaw.register r hkept, hseven]
  · exact hlaw.screen (by simp [ShownBy])

end Machine

end ChipEight
