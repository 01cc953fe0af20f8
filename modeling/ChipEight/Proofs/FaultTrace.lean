import ChipEight.Proofs.Stepping

/-!
# The last record before a fault

A cycle is recorded (`emit`) from what the fetch gave it, before anything is known of a fault.  The
report of a fault (`raise_for_error`) is made afterwards, from the state the cycle left behind, with
a look of its own at whether a whole word stands at the program counter.  A cycle that goes wrong is
taken back, so both look at the same memory and the same program counter.

* `Machine.record?_of_fault` — the record of a cycle that goes wrong, and what the report of
  its fault says.
* `Machine.trace_of_fault` — in a run it is the last record, behind those of the cycles that
  went well.
* `Session.records_of_failed` — a step that fails sends one record, which names the
  instruction of the report; where the fetch itself fails the report names none, and the
  record has a word that was never one.
-/

namespace ChipEight

namespace Machine

/-! ## Records and reports -/

theorem record?_of_running {m : Machine} (h : m.halted = false) :
    m.record? = some (Record.ofWord m.pc.toNat m.word) := by
  rw [record?, if_neg (by simp [h])]

/-- A report is about the program counter and the word there. -/
theorem eq_of_halt?_eq_fault {m : Machine} {r : FaultReport} (h : m.halt? = some (.fault r)) :
    m.error ≠ 0 ∧ FaultCode.ofNumber? m.error.toNat = some r.code ∧ r.address = m.pc.toNat ∧
      r.opcode = if m.hasWord then some (m.word : Int) else none := by
  refine ⟨fun hzero => ?_, ?_⟩
  · rw [(halt?_eq_none_iff m).2 hzero] at h
    cases h
  · unfold halt? at h
    split at h
    · cases h
    · cases h
    · rename_i hcode
      cases h
      exact ⟨hcode, rfl, rfl⟩

/-- A cycle that goes wrong leaves the program counter and the memory as they were when its record
was made, so the report names the word of the record wherever a whole word stands. -/
theorem record?_of_fault {m : Machine} {r : FaultReport} (hm : m.halted = false)
    (h : m.cycle.halt? = some (.fault r)) :
    m.record? = some (Record.ofWord r.address m.word) ∧ r.code = m.nextFault ∧
      r.opcode = if m.hasWord then some (m.word : Int) else none := by
  obtain ⟨herror, hcode, haddress, hopcode⟩ := eq_of_halt?_eq_fault h
  have hrunning : m.error = 0 := by simpa [halted] using hm
  rw [error_cycle_of_running hrunning, FaultCode.ofNumber?_number, Option.some.injEq] at hcode
  rw [cycle_of_error herror] at haddress hopcode
  refine ⟨?_, hcode.symm, hopcode⟩
  rw [haddress]
  exact record?_of_running hm

/-- In a run the cycle that went wrong is the last one that is recorded. -/
theorem trace_of_fault {m : Machine} {n : Nat} {r : FaultReport} (hm : m.halted = false)
    (h : (m.run n).halt? = some (.fault r)) :
    ∃ k < n, (m.run k).halted = false ∧
      m.trace n = m.trace k ++ [Record.ofWord r.address (m.run k).word] ∧
      r.opcode = if (m.run k).hasWord then some ((m.run k).word : Int) else none := by
  induction n generalizing m with
  | zero =>
    have herror : m.error = 0 := by simpa [halted] using hm
    rw [run, (halt?_eq_none_iff m).2 herror] at h
    cases h
  | succ n ih =>
    rw [run] at h
    cases hc : m.cycle.halted with
    | true =>
      rw [run_of_halted _ hc] at h
      obtain ⟨hrecord, -, hopcode⟩ := record?_of_fault hm h
      have htrace : m.trace (n + 1) = [Record.ofWord r.address m.word] := by
        rw [trace, trace_of_halted hc, hrecord]
        rfl
      exact ⟨0, Nat.succ_pos n, hm, htrace, hopcode⟩
    | false =>
      obtain ⟨k, hk, hrunning, htrace, hopcode⟩ := ih hc h
      refine ⟨k + 1, Nat.succ_lt_succ hk, hrunning, ?_, hopcode⟩
      rw [trace, trace, htrace, List.append_assoc]
      rfl

/-- Past the end of memory its last byte is read, twice. -/
theorem word_of_not_hasWord {m : Machine} (h : ¬ m.hasWord = true) :
    m.word = 257 * m.memory[0xFFF].toNat := by
  have hpc : 0xFFF ≤ m.pc.toNat := by
    rw [hasWord, decide_eq_true_eq] at h
    omega
  have hlast : ∀ a, 0xFFF ≤ a → m.memory.read a = m.memory[0xFFF] := by
    intro a ha
    simp only [Memory.read, Nat.min_eq_right ha]
  rw [word, hlast _ hpc, hlast _ (by omega)]
  omega

end Machine

namespace Session

open Machine

/-- **The record of a step that fails.**  A session with a trace whose machine runs sends
exactly one record, at the address of the report.  Where the report has a word it is the word
of the record, and the one in memory at that address.  It has none only where the fetch
itself fails, past the end of memory; the record is sent all the same, and its word is made
of the last byte of memory, twice. -/
theorem records_of_failed {s : Session} (hs : s.Reachable) (htraced : s.traced = true)
    (hrunning : s.machine.halted = false) {f : Failure}
    (hf : (s.perform .step).failure = some f) :
    ∃ (r : FaultReport) (w : Nat), f = .halt (.fault r) ∧
      (s.perform .step).report.records = [Record.ofWord r.address w] ∧
      (∀ o, r.opcode = some o → o = w ∧ s.machine.Fetches w) ∧
      (r.opcode = none ↔ 0xFFF ≤ r.address) ∧
      (r.opcode = none → r.code = .outOfBounds ∧ w = 257 * s.machine.memory[0xFFF].toNat) := by
  rw [failure_step] at hf
  obtain ⟨h, hh, rfl⟩ := Option.map_eq_some_iff.1 hf
  obtain ⟨r, rfl, -⟩ := hs.sound.cycle.halt?_eq hh
  obtain ⟨hrecord, hcode, hopcode⟩ := record?_of_fault hrunning hh
  have haddress : r.address = s.machine.pc.toNat := by
    rw [record?_of_running hrunning] at hrecord
    exact (congrArg Record.address (Option.some.inj hrecord)).symm
  refine ⟨r, s.machine.word, rfl, ?_, ?_⟩
  · rw [records_step, if_pos htraced, hrecord]
    rfl
  · by_cases hw : s.machine.hasWord = true
    · have hpc : s.machine.pc.toNat + 1 < 4096 := of_decide_eq_true hw
      rw [if_pos hw] at hopcode
      refine ⟨fun o ho => ?_, ?_, fun hnone => ?_⟩
      · rw [hopcode, Option.some.injEq] at ho
        exact ⟨ho.symm, fetches_iff.2 ⟨hw, rfl⟩⟩
      · simp only [hopcode, reduceCtorEq, false_iff]
        omega
      · rw [hopcode] at hnone
        cases hnone
    · have hpc : ¬ s.machine.pc.toNat + 1 < 4096 := fun hlt => hw (decide_eq_true hlt)
      rw [if_neg hw] at hopcode
      refine ⟨fun o ho => ?_, ?_, fun _ => ⟨?_, word_of_not_hasWord hw⟩⟩
      · rw [hopcode] at ho
        cases ho
      · simp only [hopcode, true_iff]
        omega
      · rw [hcode, nextFault, if_neg hw]

/-- A session with a program whose first word is no instruction. -/
def puzzled : Session :=
  (fresh ⟨0, 0⟩ .legacy true).performAll [.load (.bytes [0x01, 0x23])]

theorem records_of_failed_puzzled :
    puzzled.Reachable ∧ puzzled.traced = true ∧ puzzled.machine.halted = false ∧
    (puzzled.perform .step).failure =
      some (.halt (.fault ⟨.unknownOpcode, 0x200, some 0x0123⟩)) ∧
    (puzzled.perform .step).report.records = [Record.ofWord 0x200 0x0123] := by
  have hs : puzzled.Reachable := (Reachable.fresh ⟨0, 0⟩ .legacy true).performAll _
  obtain ⟨htraced, hrunning, hf⟩ :
      puzzled.traced = true ∧ puzzled.machine.halted = false ∧
      (puzzled.perform .step).failure =
        some (.halt (.fault ⟨.unknownOpcode, 0x200, some 0x0123⟩)) := by
    decide +kernel
  obtain ⟨r, w, hr, hrecords, hword, -⟩ := records_of_failed hs htraced hrunning hf
  cases hr
  obtain ⟨ho, -⟩ := hword 0x0123 rfl
  exact ⟨hs, htraced, hrunning, hf, by rw [hrecords, ← ho]⟩

/-- A session whose program jumps to the last byte of memory, where no word fits. -/
def stranded : Session :=
  (fresh ⟨0, 0⟩ .legacy true).performAll [.load (.bytes [0x1F, 0xFF]), .step]

/-- Nothing is fetched there and the report names no instruction, but one is recorded. -/
theorem stranded_recorded :
    stranded.Reachable ∧ stranded.traced = true ∧ stranded.machine.halted = false ∧
    (stranded.perform .step).failure = some (.halt (.fault ⟨.outOfBounds, 0xFFF, none⟩)) ∧
    (stranded.perform .step).report.records = [Record.ofWord 0xFFF 0x0000] := by
  have hs : stranded.Reachable := (Reachable.fresh ⟨0, 0⟩ .legacy true).performAll _
  exact ⟨hs, by decide +kernel⟩

end Session

end ChipEight
