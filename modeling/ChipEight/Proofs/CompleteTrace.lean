import ChipEight.Proofs.FaultTrace

/-!
# The trace is the run

Whether a cycle is recorded is decided before it is done, by a look at the machine as it is
then (`emit` in `step`), while a fault shows only afterwards; and a run (`run_n_cycles`) goes on
through a stopped machine.  So the records of a run are those of the cycles that found the machine
running, one for each and in order, the last one perhaps for a cycle that went wrong.

* `Machine.trace_add` — a trace is put together like a run.
* `Machine.trace_eq_map` — the records by the numbers of their cycles.
* `Machine.length_trace_of_running`, `Machine.length_trace_of_fault` — how many there are.
* `Session.records_of_run` — the trace a session sends, and that nothing else depends on
  whether it sends one; `Session.records_of_tooMany` — a number of cycles it does not take.
-/

namespace ChipEight

namespace Machine

/-! ## Traces and their lengths -/

/-- The trace of a run and of what follows it. -/
theorem trace_add (m : Machine) (a b : Nat) :
    m.trace (a + b) = m.trace a ++ (m.run a).trace b := by
  induction a generalizing m with
  | zero => simp [trace, run]
  | succ a ih => rw [Nat.add_right_comm, trace, ih, trace, run, List.append_assoc]

theorem trace_one (m : Machine) : m.trace 1 = m.record?.toList := by
  simp [trace]

/-- One more cycle is one more record, if the machine still runs. -/
theorem trace_succ (m : Machine) (n : Nat) :
    m.trace (n + 1) = m.trace n ++
      if (m.run n).error = 0 then [Record.ofWord (m.run n).pc.toNat (m.run n).word] else [] := by
  rw [trace_add, trace_one]
  by_cases h : (m.run n).error = 0
  · rw [if_pos h, record?_of_running (by simp [halted, h])]
    rfl
  · rw [if_neg h, record?, if_pos (by simp [halted, h])]
    rfl

/-- **One record for each cycle that finds the machine running**, in their order. -/
theorem trace_eq_map (m : Machine) (n : Nat) :
    m.trace n = ((List.range n).filter fun i => (m.run i).error == 0).map fun i =>
      Record.ofWord (m.run i).pc.toNat (m.run i).word := by
  induction n with
  | zero => rfl
  | succ n ih =>
    rw [trace_succ, List.range_succ, List.filter_append, List.map_append, ← ih]
    by_cases h : (m.run n).error = 0 <;> simp [h]

/-- Cycles that all find the machine running are all recorded. -/
theorem length_trace_of_running {m : Machine} {n : Nat}
    (h : ∀ i < n, (m.run i).error = 0) : (m.trace n).length = n := by
  induction n with
  | zero => rfl
  | succ n ih =>
    have hlast := h n (Nat.lt_succ_self n)
    have hbefore := ih fun i hi => h i (Nat.lt_succ_of_lt hi)
    rw [trace_succ, if_pos hlast, List.length_append, hbefore, List.length_singleton]

/-- After the first cycle that goes wrong nothing is recorded any more. -/
theorem length_trace_of_fault {m : Machine} {k n : Nat} (hk : k < n)
    (hrunning : (m.run k).error = 0) (hfault : (m.run (k + 1)).error ≠ 0) :
    (m.trace n).length = k + 1 := by
  obtain ⟨j, rfl⟩ := Nat.exists_eq_add_of_le (show k + 1 ≤ n from hk)
  have hstopped : (m.run (k + 1)).halted = true := by simpa [halted] using hfault
  rw [trace_add, trace_of_halted hstopped, List.append_nil]
  refine length_trace_of_running ?_
  intro i hi
  exact error_run_of_le hrunning (Nat.le_of_lt_succ hi)

end Machine

namespace Session

open Machine

/-! ## The trace of a session -/

/-- **The trace of a run.**  Whatever state the machine is in: if it runs into no program
counter past the end of memory, then the records that are sent are those of the cycles that
found it running, each with the program counter and the word that was then in memory there.
So there are as many as cycles if nothing goes wrong, as many as it takes for something to go
wrong, or none if the machine was stopped from the start.  Apart from the records everything
is as it is without a trace.  The number of cycles has to have 31 bits. -/
theorem records_of_run (s : Session) {n : Nat} (hlt : n < 0x80000000)
    (hpc : ∀ i < n, (s.machine.run i).error = 0 → (s.machine.run i).pc.toNat ≤ 0xFFE) :
    let traced := { s with traced := true }.runFor (.int n) (.bool false)
    let silent := { s with traced := false }.runFor (.int n) (.bool false)
    traced.report.records =
      ((List.range n).filter fun i => (s.machine.run i).error == 0).map (fun i =>
        Record.ofWord (s.machine.run i).pc.toNat (s.machine.run i).word) ∧
    (∀ i < n, (s.machine.run i).error = 0 →
      (s.machine.run i).Fetches (s.machine.run i).word) ∧
    ((s.machine.run n).error = 0 → traced.report.records.length = n) ∧
    (∀ k < n, (s.machine.run k).error = 0 → (s.machine.run (k + 1)).error ≠ 0 →
      traced.report.records.length = k + 1) ∧
    (s.machine.error ≠ 0 → traced.report.records = []) ∧
    silent.report.records = [] ∧
    traced.session = { silent.session with traced := true } ∧
    traced.session.machine = s.machine.run n ∧
    traced.failure = silent.failure := by
  intro traced silent
  have htraced : traced = { s with traced := true }.counted (.whole n false) :=
    runFor_of_lt _ hlt false
  have hsilent : silent = { s with traced := false }.counted (.whole n false) :=
    runFor_of_lt _ hlt false
  have hrecords : traced.report.records = s.machine.trace n := by
    rw [htraced, records_counted]
    rfl
  refine ⟨?_, ?_, ?_, ?_, ?_, ?_, ?_, ?_, ?_⟩
  · rw [hrecords, trace_eq_map]
  · intro i hi hrunning
    refine fetches_iff.2 ⟨?_, rfl⟩
    have hle := hpc i hi hrunning
    rw [hasWord, decide_eq_true_eq]
    omega
  · intro hrun
    rw [hrecords]
    exact length_trace_of_running fun i hi => error_run_of_le hrun (Nat.le_of_lt hi)
  · intro k hk hrunning hfault
    rw [hrecords]
    exact length_trace_of_fault hk hrunning hfault
  · intro hstopped
    rw [hrecords, trace_of_halted (by simpa [Machine.halted] using hstopped)]
  · rw [hsilent, records_counted]
    rfl
  · rw [htraced, hsilent, session_counted, session_counted]
  · rw [htraced, session_counted]
    rfl
  · rw [htraced, hsilent, failure_counted, failure_counted]

/-- A session with a program that writes its next word, does it, and then returns from
nowhere. -/
def rewriting : Session :=
  (fresh ⟨0, 0⟩ .legacy true).performAll
    [.load (.bytes [0x60, 0x6A, 0x61, 0x05, 0xA2, 0x08, 0xF1, 0x55, 0x00, 0x00, 0x00, 0xEE])]

/-- The record is of the word as it was written, and the last one is of the fault. -/
theorem records_of_run_rewriting :
    8 < 0x80000000 ∧
    (∀ i < 8, (rewriting.machine.run i).error = 0 →
      (rewriting.machine.run i).pc.toNat ≤ 0xFFE) ∧
    ({ rewriting with traced := true }.runFor (.int (8 : Nat)) (.bool false)).report.records =
      [Record.ofWord 0x200 0x606A, Record.ofWord 0x202 0x6105, Record.ofWord 0x204 0xA208,
        Record.ofWord 0x206 0xF155, Record.ofWord 0x208 0x6A05, Record.ofWord 0x20A 0x00EE] ∧
    ({ rewriting with traced := true }.runFor (.int (8 : Nat)) (.bool false)).report.records.length
      = 6 := by
  obtain ⟨hpc, hrunning, hfault, hlist⟩ :
      (∀ i < 8, (rewriting.machine.run i).error = 0 →
        (rewriting.machine.run i).pc.toNat ≤ 0xFFE) ∧
      (rewriting.machine.run 5).error = 0 ∧ (rewriting.machine.run 6).error ≠ 0 ∧
      (((List.range 8).filter fun i => (rewriting.machine.run i).error == 0).map fun i =>
        Record.ofWord (rewriting.machine.run i).pc.toNat (rewriting.machine.run i).word) =
      [Record.ofWord 0x200 0x606A, Record.ofWord 0x202 0x6105, Record.ofWord 0x204 0xA208,
        Record.ofWord 0x206 0xF155, Record.ofWord 0x208 0x6A05, Record.ofWord 0x20A 0x00EE] := by
    decide +kernel
  have hlt : 8 < 0x80000000 := by decide
  obtain ⟨hrecords, -, -, hcount, -⟩ := records_of_run rewriting hlt hpc
  dsimp only
  exact ⟨hlt, hpc, hrecords.trans hlist, hcount 5 (by decide) hrunning hfault⟩

/-- So many cycles cannot be asked for at once: none of them is done, and not even the first
is recorded, though it finds the machine running. -/
theorem records_of_tooMany :
    returningAtOnce.traced = true ∧
    (∀ i < 0x8000000000000000, (returningAtOnce.machine.run i).error = 0 →
      (returningAtOnce.machine.run i).pc.toNat ≤ 0xFFE) ∧
    (returningAtOnce.runFor (.int 0x8000000000000000) (.bool false)).report.records ≠
      ((List.range 0x8000000000000000).filter fun i =>
        (returningAtOnce.machine.run i).error == 0).map fun i =>
          Record.ofWord (returningAtOnce.machine.run i).pc.toNat
            (returningAtOnce.machine.run i).word := by
  obtain ⟨htraced, hrunning, hpc, hstopped, hnone⟩ :
      returningAtOnce.traced = true ∧ returningAtOnce.machine.error = 0 ∧
      returningAtOnce.machine.pc.toNat ≤ 0xFFE ∧
      returningAtOnce.machine.cycle.halted = true ∧
      (returningAtOnce.runFor (.int 0x8000000000000000) (.bool false)).report.records = [] := by
    decide +kernel
  refine ⟨htraced, ?_, ?_⟩
  · intro i _ hi
    cases i with
    | zero => exact hpc
    | succ i =>
      rw [run, run_of_halted _ hstopped] at hi
      simp [Machine.halted, hi] at hstopped
  · rw [hnone]
    apply Ne.symm
    rw [Ne, List.map_eq_nil_iff, List.filter_eq_nil_iff]
    intro hall
    exact hall 0 (List.mem_range.2 (by omega)) (beq_iff_eq.2 hrunning)

end Session

end ChipEight
