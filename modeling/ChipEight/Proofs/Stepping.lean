import ChipEight.Proofs.Subroutines

/-!
# Cycles at once and one by one

A host can ask for many cycles at once (`run`), or take one after the other (`step`) until as many
are done or one of them fails.  The first way goes on through a stopped machine and looks for a
fault when all is over, the second looks after every cycle; for the host it makes no difference but
in the number of cycles that were counted.

* `Session.steps` — one cycle after the other.
* `Session.machine_steps`, `Session.records_steps`, `Session.failure_steps` — what they
  leave behind is what the machine, its trace and its fault are after a run.
* `Session.steps_of_failed` — after a cycle that failed there is no other one.
* `Session.batch_agrees_with_steps` — the two ways agree, for every number of cycles that
  can be asked for at once, and where a fault is, it is the same in both.
-/

namespace ChipEight

/-! ## Counting one by one -/

namespace Number

/-- A number after one was added so many times. -/
def countUp (x : Number) : Nat → Number
  | 0 => x
  | k + 1 => (x.add (.whole 1)).countUp k

/-- Whole numbers are counted up exactly. -/
theorem countUp_whole (c : Int) (k : Nat) : (whole c).countUp k = .whole (c + k) := by
  induction k generalizing c with
  | zero => simp [countUp]
  | succ k ih =>
    rw [countUp, add_whole, ih]
    congr 1
    push_cast
    omega

end Number

namespace Machine

/-! ## Machines that stop -/

/-- Only the number zero says that nothing is wrong. -/
theorem ofNumber?_eq_clear_iff (m : Machine) :
    FaultCode.ofNumber? m.error.toNat = some .clear ↔ m.error = 0 := by
  constructor
  · intro h
    have hnumber := List.find?_some h
    have hzero : m.error.toNat = 0 := by
      simp only [FaultCode.number, beq_iff_eq] at hnumber
      exact_mod_cast hnumber.symm
    exact UInt8.toNat_inj.1 hzero
  · intro h
    rw [h]
    rfl

theorem halt?_eq_none_iff (m : Machine) : m.halt? = none ↔ m.error = 0 := by
  have hcode := ofNumber?_eq_clear_iff m
  unfold halt?
  split
  · rename_i hnone
    simp [← hcode, hnone]
  · rename_i hclear
    simp [← hcode, hclear]
  · rename_i code hne hsome
    simp only [reduceCtorEq, false_iff, ← hcode, hsome, Option.some.injEq]
    exact hne

theorem halted_of_halt? {m : Machine} {x : Halt} (h : m.halt? = some x) : m.halted = true := by
  have hne : m.error ≠ 0 := by
    intro hzero
    rw [(halt?_eq_none_iff m).2 hzero] at h
    cases h
  exact bne_iff_ne.2 hne

/-- A stopped machine records nothing. -/
theorem trace_of_halted {m : Machine} (h : m.halted = true) (n : Nat) : m.trace n = [] := by
  induction n with
  | zero => rfl
  | succ n ih =>
    rw [trace, cycle_of_halted m h, ih, record?, if_pos h]
    rfl

end Machine

/-- What two commands have to say, one after the other. -/
def Report.append (first second : Report) : Report where
  records := first.records ++ second.records
  bar := first.bar ++ second.bar
  messages := first.messages ++ second.messages

namespace Outcome

/-- Goes on with the session a command left behind, unless the command failed. -/
def andThen (first : Outcome) (next : Session → Outcome) : Outcome :=
  match first.failure with
  | some _ => first
  | none =>
    let second := next first.session
    { second with report := first.report.append second.report }

theorem andThen_of_some {first : Outcome} {f : Failure} (h : first.failure = some f)
    (next : Session → Outcome) : first.andThen next = first := by
  simp only [andThen, h]

theorem andThen_of_none {first : Outcome} (h : first.failure = none)
    (next : Session → Outcome) :
    first.andThen next =
      { next first.session with report := first.report.append (next first.session).report } := by
  simp only [andThen, h]

end Outcome

namespace Session

open Machine

/-- Cycles one after the other, until so many were done or one failed. -/
def steps (s : Session) : Nat → Outcome
  | 0 => ⟨s, {}, none⟩
  | n + 1 => (s.perform .step).andThen fun s => s.steps n

/-! ## One cycle after the other -/

theorem steps_succ_of_some {s : Session} {f : Failure} (h : (s.perform .step).failure = some f)
    (n : Nat) : s.steps (n + 1) = s.perform .step :=
  Outcome.andThen_of_some h _

theorem steps_succ_of_none {s : Session} (h : (s.perform .step).failure = none) (n : Nat) :
    s.steps (n + 1) =
      { (s.perform .step).session.steps n with
        report := (s.perform .step).report.append
          ((s.perform .step).session.steps n).report } :=
  Outcome.andThen_of_none h _

theorem halted_of_failed {s : Session} {f : Failure} (h : (s.perform .step).failure = some f) :
    s.machine.cycle.halted = true := by
  rw [failure_step, Option.map_eq_some_iff] at h
  obtain ⟨x, hx, -⟩ := h
  exact halted_of_halt? hx

theorem machine_steps (s : Session) (n : Nat) :
    (s.steps n).session.machine = s.machine.run n := by
  induction n generalizing s with
  | zero => rfl
  | succ n ih =>
    rw [run]
    cases h : (s.perform .step).failure with
    | some f => rw [steps_succ_of_some h, session_step, run_of_halted _ (halted_of_failed h)]
    | none => rw [steps_succ_of_none h, ih, session_step]

theorem records_steps (s : Session) (n : Nat) :
    (s.steps n).report.records = if s.traced then s.machine.trace n else [] := by
  induction n generalizing s with
  | zero => simp [steps, trace]
  | succ n ih =>
    rw [trace]
    cases h : (s.perform .step).failure with
    | some f =>
      rw [steps_succ_of_some h, records_step, trace_of_halted (halted_of_failed h),
        List.append_nil]
    | none =>
      rw [steps_succ_of_none h, Report.append, ih, records_step, session_step]
      split <;> rfl

/-- The fault of the last cycle is the fault the machine has in the end. -/
theorem failure_steps (s : Session) (n : Nat) :
    (s.steps (n + 1)).failure = (s.machine.run (n + 1)).halt?.map .halt := by
  induction n generalizing s with
  | zero =>
    cases h : (s.perform .step).failure with
    | some f =>
      rw [steps_succ_of_some h]
      exact failure_step s
    | none =>
      rw [steps_succ_of_none h]
      exact h.symm.trans (failure_step s)
  | succ n ih =>
    rw [run]
    cases h : (s.perform .step).failure with
    | some f => rw [steps_succ_of_some h, failure_step, run_of_halted _ (halted_of_failed h)]
    | none => rw [steps_succ_of_none h, ih, session_step]

/-- After a cycle that failed there is no other one. -/
theorem steps_of_failed {s : Session} {k n : Nat} (h : (s.steps k).failure ≠ none)
    (hkn : k ≤ n) : s.steps n = s.steps k := by
  induction k generalizing s n with
  | zero => exact absurd rfl h
  | succ k ih =>
    obtain ⟨j, rfl⟩ := Nat.exists_eq_add_of_le' (show 1 ≤ n by omega)
    cases hf : (s.perform .step).failure with
    | some f => rw [steps_succ_of_some hf, steps_succ_of_some hf]
    | none =>
      rw [steps_succ_of_none hf] at h
      rw [steps_succ_of_none hf, steps_succ_of_none hf, ih h (by omega)]

/-- The cycle that fails is counted too. -/
theorem cycles_steps_succ {s : Session} {k : Nat} (h : (s.steps k).failure = none) :
    (s.steps (k + 1)).session.cycles = s.cycles.countUp (k + 1) := by
  induction k generalizing s with
  | zero =>
    cases hf : (s.perform .step).failure with
    | some f =>
      rw [steps_succ_of_some hf, session_step]
      rfl
    | none =>
      rw [steps_succ_of_none hf, session_step]
      rfl
  | succ k ih =>
    cases hf : (s.perform .step).failure with
    | some f =>
      rw [steps_succ_of_some hf, hf] at h
      cases h
    | none =>
      rw [steps_succ_of_none hf] at h
      rw [steps_succ_of_none hf, ih h, session_step]
      rfl

theorem cycles_steps_of_none {s : Session} {n : Nat} (h : (s.steps n).failure = none) :
    (s.steps n).session.cycles = s.cycles.countUp n := by
  cases n with
  | zero => rfl
  | succ n =>
    refine cycles_steps_succ (Decidable.byContradiction fun hne => hne ?_)
    rwa [steps_of_failed hne (Nat.le_succ n)] at h

/-- What the first cycle that fails leaves behind stays: of that cycle, only the fault. -/
theorem machine_steps_of_first_failed {s : Session} (hs : s.machine.Sound) {k n : Nat}
    (hk : k < n) (hfail : (s.steps (k + 1)).failure ≠ none) :
    ∃ code, code ≠ FaultCode.clear ∧
      (s.steps n).session.machine = { s.machine.run k with error := code.number } := by
  have herr : (s.machine.run k).cycle.error ≠ 0 := by
    intro hzero
    rw [← run_succ] at hzero
    rw [failure_steps, (halt?_eq_none_iff _).2 hzero] at hfail
    exact hfail rfl
  obtain ⟨code, hcode⟩ := (hs.run k).cycle.error_code
  refine ⟨code, ?_, ?_⟩
  · rwa [hcode, ne_eq, FaultCode.number_eq_zero_iff] at herr
  · rw [steps_of_failed hfail hk, machine_steps, run_succ, cycle_of_error herr, hcode]

/-! ## Cycles at once -/

/-- A number of cycles of 31 bits can be counted, with a bar or without. -/
theorem check_whole_of_lt {n : Nat} (h : n < 0x80000000) (showBar : Bool) :
    (Count.whole n showBar).check = .ok () := by
  have hlt : (n : Int) < 0x80000000 := by omega
  refine Progress.checkRun_of_lt ?_ hlt
  cases showBar with
  | false => rfl
  | true => exact Progress.Plan.checkWidth_make (Int.natCast_nonneg n) hlt none none []

theorem perform_run_of_lt (s : Session) {n : Nat} (h : n < 0x80000000) (showBar : Bool) :
    s.perform (.run n showBar) = s.counted (.whole n showBar) := by
  rw [perform, cycled, check_whole_of_lt h showBar]

theorem runFor_of_lt (s : Session) {n : Nat} (h : n < 0x80000000) (showBar : Bool) :
    s.runFor (.int n) (.bool showBar) = s.counted (.whole n showBar) := by
  rw [runFor_int, perform_run_of_lt s h]

/-- More cycles than that are refused, and nothing is done. -/
theorem perform_run_of_le (s : Session) {n : Nat} (h : 0x80000000 ≤ n) (showBar : Bool) :
    ∃ e, s.perform (.run n showBar) = s.refused (.width e) := by
  have hle : (0x80000000 : Int) ≤ (Count.whole n showBar).cycles := by
    simp only [Count.whole]
    omega
  obtain ⟨e, he⟩ := Progress.checkRun_of_le (Count.whole n showBar).plan hle
  refine ⟨e, ?_⟩
  rw [perform, cycled, Count.check, he]

/-- **Cycles at once are cycles one by one.**  The machine, the trace and the fault that is
reported are the same in both ways, with a bar or without.  The first way counts the cycles
that were asked for, the second those that were done; if cycle `k + 1` is the first that
fails, all it leaves on the machine is the fault.  The number of cycles has to have 31 bits. -/
theorem batch_agrees_with_steps {s : Session} (hs : s.Reachable) {n : Nat} (hn : 1 ≤ n)
    (hlt : n < 0x80000000) (showBar : Bool) :
    let batch := s.runFor (.int n) (.bool showBar)
    let single := s.steps n
    batch.session.machine = single.session.machine ∧
    batch.report.records = single.report.records ∧
    batch.failure = single.failure ∧
    (∀ f, batch.failure = some f → ∃ r, f = .halt (.fault r)) ∧
    batch.session.cycles = s.cycles.add (.whole n) ∧
    (single.failure = none → single.session.cycles = s.cycles.countUp n) ∧
    (∀ k < n, (s.steps k).failure = none → (s.steps (k + 1)).failure ≠ none →
      (∃ code, code ≠ FaultCode.clear ∧
        single.session.machine = { s.machine.run k with error := code.number }) ∧
      single.session.cycles = s.cycles.countUp (k + 1)) ∧
    (∀ c, s.cycles = .whole c →
      s.cycles.add (.whole n) = .whole (c + n) ∧ ∀ j, s.cycles.countUp j = .whole (c + j)) := by
  intro batch single
  have hbatch : batch = s.counted (.whole n showBar) := runFor_of_lt s hlt showBar
  obtain ⟨j, rfl⟩ := Nat.exists_eq_add_of_le' hn
  have hcount : (Count.whole ((j + 1 : Nat) : Int) showBar).cycles.toNat = j + 1 := rfl
  have hfailure : batch.failure = (s.machine.run (j + 1)).halt?.map .halt := by
    rw [hbatch, failure_counted, hcount]
  refine ⟨?_, ?_, ?_, fun f hf => ?_, ?_, cycles_steps_of_none, fun k hk hok hfail => ⟨?_, ?_⟩,
    fun c hc => ⟨?_, fun i => ?_⟩⟩
  · rw [hbatch, session_counted, hcount, machine_steps]
  · rw [hbatch, records_counted, hcount, records_steps]
  · rw [hfailure, failure_steps]
  · rw [hfailure] at hf
    obtain ⟨h, hh, rfl⟩ := Option.map_eq_some_iff.1 hf
    obtain ⟨r, rfl, -⟩ := (hs.sound.run _).halt?_eq hh
    exact ⟨r, rfl⟩
  · rw [hbatch, session_counted]
    rfl
  · exact machine_steps_of_first_failed hs.sound hk hfail
  · rw [show single = s.steps (k + 1) from steps_of_failed hfail hk, cycles_steps_succ hok]
  · rw [hc, Number.add_whole]
  · rw [hc, Number.countUp_whole]

/-- A session with a program that loads a register and then returns from nowhere. -/
def straying : Session :=
  (fresh ⟨0, 0⟩ .legacy true).performAll [.load (.bytes [0x60, 0x01, 0x00, 0xEE])]

theorem batch_agrees_with_steps_straying :
    straying.Reachable ∧
    (straying.runFor (.int 5) (.bool true)).failure = (straying.steps 5).failure ∧
    (straying.steps 5).failure =
      some (.halt (.fault ⟨.stackUnderflow, 0x202, some 0x00EE⟩)) ∧
    (straying.runFor (.int 5) (.bool true)).report.records =
      [Record.ofWord 0x200 0x6001, Record.ofWord 0x202 0x00EE] ∧
    (straying.runFor (.int 5) (.bool true)).session.machine =
      { straying.machine.cycle with error := 4 } ∧
    (straying.runFor (.int 5) (.bool true)).session.cycles = .whole 5 ∧
    (straying.steps 5).session.cycles = .whole 2 := by
  have hr : straying.Reachable := (Reachable.fresh ⟨0, 0⟩ .legacy true).performAll _
  obtain ⟨hzero, hone, htwo, hfive, herror, htrace⟩ :
      straying.cycles = .whole 0 ∧
      (straying.steps 1).failure = none ∧ (straying.steps 2).failure ≠ none ∧
      (straying.steps 5).failure =
        some (.halt (.fault ⟨.stackUnderflow, 0x202, some 0x00EE⟩)) ∧
      (straying.steps 5).session.machine.error = 4 ∧
      (straying.steps 5).report.records =
        [Record.ofWord 0x200 0x6001, Record.ofWord 0x202 0x00EE] := by
    decide +kernel
  have hagree := batch_agrees_with_steps hr (n := 5) (by decide) (by decide) true
  rw [show ((5 : Nat) : Int) = 5 from rfl] at hagree
  obtain ⟨hmachine, hrecords, hfailure, -, hcycles, -, hfirst, hwhole⟩ := hagree
  obtain ⟨⟨code, -, hstate⟩, hcount⟩ := hfirst 1 (by decide) hone htwo
  have hcode : code.number = 4 := by
    rw [hstate] at herror
    exact herror
  refine ⟨hr, hfailure, hfive, hrecords.trans htrace, ?_, ?_, ?_⟩
  · rw [hmachine, hstate, hcode]
    rfl
  · exact hcycles.trans (hwhole 0 hzero).1
  · exact hcount.trans ((hwhole 0 hzero).2 2)

/-- A session with a program that returns from nowhere at once. -/
def returningAtOnce : Session :=
  (fresh ⟨0, 0⟩ .legacy true).performAll [.load (.bytes [0x00, 0xEE])]

/-- Beyond those numbers the two ways part: so many cycles cannot be asked for at once, with
a bar or without, but one after the other leads to the fault of the first. -/
theorem batch_differs_from_steps_tooMany :
    returningAtOnce.Reachable ∧
    (returningAtOnce.runFor (.int 0x80000001) (.bool true)).failure =
      some (.width (.argument "y" 0x80000000)) ∧
    (returningAtOnce.runFor (.int 0x8000000000000000) (.bool false)).failure =
      some (.width (.argument "y" 0x8000000000000000)) ∧
    (returningAtOnce.steps 0x80000001).failure =
      some (.halt (.fault ⟨.stackUnderflow, 0x200, some 0x00EE⟩)) ∧
    (returningAtOnce.steps 0x8000000000000000).failure =
      some (.halt (.fault ⟨.stackUnderflow, 0x200, some 0x00EE⟩)) := by
  have hone : (returningAtOnce.steps 1).failure =
      some (.halt (.fault ⟨.stackUnderflow, 0x200, some 0x00EE⟩)) := by decide +kernel
  have hmany : ∀ n, 1 ≤ n → (returningAtOnce.steps n).failure =
      some (.halt (.fault ⟨.stackUnderflow, 0x200, some 0x00EE⟩)) := by
    intro n hn
    rw [steps_of_failed (by rw [hone]; exact Option.some_ne_none _) hn, hone]
  exact ⟨(Reachable.fresh ⟨0, 0⟩ .legacy true).performAll _, by decide +kernel,
    by decide +kernel, hmany _ (by omega), hmany _ (by omega)⟩

end Session

end ChipEight
