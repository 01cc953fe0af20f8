import ChipEight.Proofs.CompleteTrace

/-!
# Two machines side by side

What a cycle does about the fetch and about faults depends on little of the machine: on whether
it runs, on the program counter and the memory, and on the few fields a fault is decided by.  Two
machines that agree in these do the same instruction or end with the same fault, and leave the
same record, whatever else is different between them.  So to follow two machines through a run
it is enough to look at what their instructions do.

* `Machine.InStep` — what the two machines agree in, and `Machine.InStep.executes` — they do the
  same instruction.
* `Machine.InStep.cycle` — a relation between two machines in step that their instructions keep is
  kept by their cycles, and `Machine.run_of_cycle` — what cycles keep is kept by runs.
* `Machine.trace_of_inStep` — machines that are in step all the way leave the same trace.
-/

namespace ChipEight.Machine

variable {m m' : Machine}

/-- The two machines are about to do the same: both run or both were stopped, the same word
stands at the program counter, and the same instructions go wrong. -/
structure InStep (m m' : Machine) : Prop where
  error : m'.error = m.error
  pc : m'.pc = m.pc
  memory : m'.memory = m.memory
  faultOf : ∀ i, m'.faultOf i = m.faultOf i

namespace InStep

theorem halted_eq (h : m.InStep m') : m'.halted = m.halted := by
  rw [halted, halted, h.error]

theorem hasWord_eq (h : m.InStep m') : m'.hasWord = m.hasWord := by
  rw [hasWord, hasWord, h.pc]

theorem word_eq (h : m.InStep m') : m'.word = m.word := by
  rw [word, word, h.pc, h.memory]

/-- Both cycles leave the same record. -/
theorem record?_eq (h : m.InStep m') : m'.record? = m.record? := by
  rw [record?, record?, h.halted_eq, h.pc, h.word_eq]

theorem halt?_eq (h : m.InStep m') : m'.halt? = m.halt? := by
  rw [halt?, halt?, h.error, h.pc, h.hasWord_eq, h.word_eq]

theorem nextFault_eq (h : m.InStep m') : m'.nextFault = m.nextFault := by
  simp only [nextFault, h.hasWord_eq, h.word_eq, h.faultOf]

/-- Both cycles do the same instruction. -/
theorem executes (h : m.InStep m') {i : Instruction} (hi : m.Executes i) : m'.Executes i where
  running := h.error.trans hi.running
  whole := h.hasWord_eq.trans hi.whole
  reads := by
    rw [h.word_eq]
    exact hi.reads
  faultless := (h.faultOf i).trans hi.faultless

/-- **What the instructions of two machines in step keep, their cycles keep.**  A cycle that goes
wrong changes nothing but the code, in both machines to the same one. -/
theorem cycle {R : Machine → Machine → Prop} (h : m.InStep m')
    (hstop : ∀ code, R { m with error := code } { m' with error := code })
    (hdo : ∀ i, m.Executes i → R (m.perform i).tick (m'.perform i).tick) :
    R m.cycle m'.cycle := by
  by_cases hr : m.error = 0
  · have hr' : m'.error = 0 := h.error.trans hr
    rcases executes_or_fault hr with ⟨i, hi⟩ | ⟨hfault, heq⟩
    · rw [hi.cycle_eq, (h.executes hi).cycle_eq]
      exact hdo i hi
    · have hfault' : m'.nextFault ≠ .clear := by
        rw [h.nextFault_eq]
        exact hfault
      rw [heq, cycle_of_fault hr' hfault', h.nextFault_eq]
      exact hstop _
  · -- a stopped machine stays as it is, with the code it has
    have hstopped : m.halted = true := by simpa [halted] using hr
    rw [cycle_of_halted m hstopped, cycle_of_halted m' (h.halted_eq.trans hstopped)]
    have hsame : R m { m' with error := m.error } := hstop m.error
    rw [← h.error] at hsame
    exact hsame

end InStep

/-- What two cycles keep, two runs keep. -/
theorem run_of_cycle {R : Machine → Machine → Prop} (hcycle : ∀ a b, R a b → R a.cycle b.cycle)
    (h : R m m') (n : Nat) : R (m.run n) (m'.run n) := by
  induction n generalizing m m' with
  | zero => exact h
  | succ n ih => exact ih (hcycle m m' h)

/-- Machines that are in step before every cycle leave the same trace. -/
theorem trace_of_inStep {n : Nat} (h : ∀ k < n, (m.run k).InStep (m'.run k)) :
    m'.trace n = m.trace n := by
  induction n with
  | zero => rfl
  | succ n ih =>
    have hbefore := ih fun k hk => h k (Nat.lt_succ_of_lt hk)
    have hlast := (h n (Nat.lt_succ_self n)).record?_eq
    rw [trace_add, trace_add, trace_one, trace_one, hbefore, hlast]

end ChipEight.Machine
