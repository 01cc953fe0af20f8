import ChipEight.Proofs.Effects

/-!
# The cases of a cycle

A cycle of a running machine either does an instruction whole or takes everything back
and keeps a fault: `step` goes back to the state it started with as soon as `fetch` or the
instruction flags an error.  Which of the two it is, and what is then left, is said here once, so
that no proof about cycles has to look into `Machine.cycle` again:

* `Machine.nextFault` — the fault the next cycle ends with;
* `Machine.Executes` — the next cycle does this instruction, and nothing goes wrong;
* `Machine.executes_or_fault` — the two cases;
* `Machine.executes_of_error_cycle` — a cycle that ends without a fault did an
  instruction.
-/

namespace ChipEight

namespace FaultCode

theorem number_eq_zero_iff (c : FaultCode) : c.number = 0 ↔ c = .clear := by
  cases c <;> decide

theorem number_inj {c d : FaultCode} : c.number = d.number ↔ c = d := by
  cases c <;> cases d <;> decide

/-- A code under a condition is clear only if the condition fails. -/
theorem eq_false_of_ite {b : Bool} {c : FaultCode} (hc : c ≠ .clear)
    (h : (if b then c else .clear) = .clear) : b = false := by
  cases b with
  | true => exact absurd h hc
  | false => rfl

end FaultCode

namespace Machine

/-! ## The next fault -/

/-- The fault the next cycle of a running machine ends with. -/
def nextFault (m : Machine) : FaultCode :=
  if m.hasWord then
    match Instruction.ofWord? m.word with
    | some i => m.faultOf i
    | none => .unknownOpcode
  else .outOfBounds

theorem fetched_of_hasWord {m : Machine} (h : m.hasWord = true) : m.fetched = m := by
  rw [fetched, h, Bool.not_true, stopIf_false]

theorem error_fetched_execute {m : Machine} (h : m.error = 0) :
    (m.fetched.execute m.word).error = m.nextFault.number := by
  by_cases hw : m.hasWord = true
  · rw [fetched_of_hasWord hw, nextFault, if_pos hw, execute_eq]
    cases Instruction.ofWord? m.word with
    | some i => exact error_perform_of_running h i
    | none => exact error_stopIf h true _
  · -- whatever the clipped word does, the fault of the fetch came first
    have hf : m.fetched.error = FaultCode.outOfBounds.number := by
      rw [fetched, error_stopIf h]
      simp [hw]
    rw [error_execute _ _ (by rw [hf]; decide), hf, nextFault, if_neg hw]

/-! ## The two cases -/

/-- The machine runs, a whole word stands at the program counter, it is a word of `i`, and
nothing goes wrong with `i`. -/
structure Executes (m : Machine) (i : Instruction) : Prop where
  running : m.error = 0
  whole : m.hasWord = true
  reads : Instruction.ofWord? m.word = some i
  faultless : m.faultOf i = .clear

theorem nextFault_eq_clear_iff {m : Machine} (h : m.error = 0) :
    m.nextFault = .clear ↔ ∃ i, m.Executes i := by
  constructor
  · intro hc
    unfold nextFault at hc
    split at hc
    · rename_i hw
      split at hc
      · rename_i i hi
        exact ⟨i, h, hw, hi, hc⟩
      · exact absurd hc (by decide)
    · exact absurd hc (by decide)
  · rintro ⟨i, hi⟩
    simp only [nextFault, hi.whole, hi.reads, hi.faultless, if_true]

/-- A cycle with a fault takes everything back but the code. -/
theorem cycle_of_fault {m : Machine} (h : m.error = 0) (hf : m.nextFault ≠ .clear) :
    m.cycle = { m with error := m.nextFault.number } := by
  have herr := error_fetched_execute h
  have hne : m.nextFault.number ≠ 0 := fun hc => hf ((FaultCode.number_eq_zero_iff _).1 hc)
  simp only [cycle, halted, herr, bne_iff_ne, ne_eq, hne, not_false_eq_true, if_true]

/-- **The one question to ask about a cycle of a running machine**: which instruction it
does, or which fault it ends with. -/
theorem executes_or_fault {m : Machine} (h : m.error = 0) :
    (∃ i, m.Executes i) ∨
      (m.nextFault ≠ .clear ∧ m.cycle = { m with error := m.nextFault.number }) := by
  by_cases hc : m.nextFault = .clear
  · exact Or.inl ((nextFault_eq_clear_iff h).1 hc)
  · exact Or.inr ⟨hc, cycle_of_fault h hc⟩

/-! ## A cycle that does its instruction -/

/-- A timer ticks down by one and stays at zero. -/
theorem toNat_countDown (b : UInt8) :
    (if b == 0 then 0 else b - 1).toNat = b.toNat - 1 := by
  by_cases hb : b = 0
  · subst hb
    rfl
  · have hpos : b.toNat ≠ 0 := fun h => hb (UInt8.toNat_inj.1 h)
    have hlt := b.toNat_lt
    simp only [beq_iff_eq, hb, if_false, UInt8.toNat_sub, UInt8.toNat_one]
    omega

namespace Executes

variable {m : Machine} {i : Instruction}

theorem pc_le (h : m.Executes i) : m.pc.toNat ≤ 0xFFE := by
  have hw := h.whole
  simp only [hasWord, decide_eq_true_eq] at hw
  omega

theorem error_perform (h : m.Executes i) : (m.perform i).error = 0 := by
  rw [error_perform_of_running h.running, h.faultless]
  rfl

/-- The instruction is done and the timers tick. -/
theorem cycle_eq (h : m.Executes i) : m.cycle = (m.perform i).tick := by
  have herr : (m.fetched.execute m.word).error = 0 := by
    rw [error_fetched_execute h.running, (nextFault_eq_clear_iff h.running).2 ⟨i, h⟩]
    rfl
  simp only [cycle, halted, herr, bne_self_eq_false, Bool.false_eq_true, if_false]
  rw [fetched_of_hasWord h.whole, execute_eq, h.reads]

theorem error_cycle (h : m.Executes i) : m.cycle.error = 0 := by
  rw [h.cycle_eq]
  exact h.error_perform

theorem stack_cycle (h : m.Executes i) : m.cycle.stack = m.stackAfter i := by
  rw [h.cycle_eq]
  exact stack_perform m i

theorem pc_cycle (h : m.Executes i) : m.cycle.pc = m.pcAfter i := by
  rw [h.cycle_eq]
  exact pc_perform m i

theorem memory_cycle (h : m.Executes i) : m.cycle.memory = m.memoryAfter i := by
  rw [h.cycle_eq, perform_eq]
  rfl

theorem index_cycle (h : m.Executes i) : m.cycle.index = m.indexAfter i := by
  rw [h.cycle_eq, perform_eq]
  rfl

theorem registers_cycle (h : m.Executes i) : m.cycle.registers = m.registersAfter i := by
  rw [h.cycle_eq, perform_eq]
  rfl

theorem key_cycle (h : m.Executes i) : m.cycle.key = m.keyAfter i := by
  rw [h.cycle_eq, perform_eq]
  rfl

theorem delay_cycle (h : m.Executes i) :
    m.cycle.delay.toNat = (m.delayAfter i).toNat - 1 := by
  rw [h.cycle_eq, perform_eq]
  exact toNat_countDown _

theorem sound_cycle (h : m.Executes i) :
    m.cycle.sound.toNat = (m.soundAfter i).toNat - 1 := by
  rw [h.cycle_eq, perform_eq]
  exact toNat_countDown _

/-- No instruction changes the dialect. -/
theorem mode_cycle (h : m.Executes i) : m.cycle.mode = m.mode := by
  rw [h.cycle_eq, perform_eq]
  rfl

/-- No instruction moves a key. -/
theorem keypad_cycle (h : m.Executes i) : m.cycle.keypad = m.keypad := by
  rw [h.cycle_eq, perform_eq]
  rfl

theorem redraw_cycle (h : m.Executes i) : m.cycle.redraw = (m.redraw || i.paints) := by
  rw [h.cycle_eq]
  exact redraw_perform m i

theorem screen_cycle (h : m.Executes i) (hi : i.paints = false) :
    m.cycle.screen = m.screen := by
  rw [h.cycle_eq]
  exact screen_perform hi

end Executes

theorem error_cycle_of_running {m : Machine} (h : m.error = 0) :
    m.cycle.error = m.nextFault.number := by
  rcases executes_or_fault h with ⟨i, hi⟩ | ⟨-, heq⟩
  · rw [hi.error_cycle, (nextFault_eq_clear_iff h).2 ⟨i, hi⟩]
    rfl
  · rw [heq]

/-- A cycle that ends without a fault did an instruction. -/
theorem executes_of_error_cycle {m : Machine} (h : m.cycle.error = 0) :
    ∃ i, m.Executes i := by
  by_cases hr : m.error = 0
  · rw [error_cycle_of_running hr, FaultCode.number_eq_zero_iff] at h
    exact (nextFault_eq_clear_iff hr).1 h
  · rw [cycle_of_halted m (by simpa [halted] using hr)] at h
    exact absurd h hr

/-- A cycle that ends with a fault changed nothing else. -/
theorem cycle_of_error {m : Machine} (h : m.cycle.error ≠ 0) :
    m.cycle = { m with error := m.cycle.error } := by
  by_cases hr : m.error = 0
  · rcases executes_or_fault hr with ⟨i, hi⟩ | ⟨-, heq⟩
    · exact absurd hi.error_cycle h
    · rw [heq]
  · rw [cycle_of_halted m (by simpa [halted] using hr)]

end Machine

end ChipEight
