import ChipEight.Proofs.FaultTrace

/-!
# A machine that stopped

A fault leaves its number in the machine and nothing else.  Where it was and which instruction
it was is read off anew for every report (`raise_for_error`).  Until it is restarted a host can
still change what a stopped machine has in memory, which keys are held and whether it asks to be
seen; it can change nothing else, so the report stays the same but for the instruction word, and
that one as long as the memory it is read from does.  A program that is loaded over the
instruction that went wrong is blamed in its place.

* `Machine.Rests` — a machine that differs from another one only in what a host can change.
* `Session.Effect.rests`, `Session.rests_operateAll` — a stopped machine rests, whatever is
  asked of its session, but for a restart.
* `Operation.Counts` — the operations that ask for cycles, no more than can be counted.
* `Session.fault_stays` — the report of a fault is made again and again.
* `Session.fault_misnamed_after_load` — a report that names an instruction that was never done.
-/

namespace ChipEight

namespace Machine

variable {m m' m'' : Machine}

/-- The second machine is the first one but for what a host can change. -/
def Rests (m m' : Machine) : Prop :=
  m' = { m with memory := m'.memory, keypad := m'.keypad, redraw := m'.redraw }

theorem Rests.refl (m : Machine) : m.Rests m := rfl

theorem Rests.trans (h : m.Rests m') (k : m'.Rests m'') : m.Rests m'' := by
  unfold Rests at k ⊢
  rw [h] at k
  exact k

theorem Rests.error_eq (h : m.Rests m') : m'.error = m.error := by
  rw [h]

theorem Rests.pc_eq (h : m.Rests m') : m'.pc = m.pc := by
  rw [h]

theorem Rests.halted_eq (h : m.Rests m') : m'.halted = m.halted := by
  rw [halted, h.error_eq]
  rfl

/-- Whether there is a word does not depend on what the word is. -/
theorem Rests.hasWord_eq (h : m.Rests m') : m'.hasWord = m.hasWord := by
  rw [hasWord, h.pc_eq]
  rfl

theorem Rests.word_eq (h : m.Rests m') (hmemory : m'.memory = m.memory) : m'.word = m.word := by
  rw [word, h.pc_eq, hmemory]
  rfl

theorem halt?_of_code {code : FaultCode} (hcode : FaultCode.ofNumber? m.error.toNat = some code)
    (hne : code ≠ .clear) :
    m.halt? = some (.fault
      ⟨code, m.pc.toNat, if m.hasWord then some (m.word : Int) else none⟩) := by
  unfold halt?
  rw [hcode]
  cases code with
  | clear => exact absurd rfl hne
  | _ => rfl

/-- The report of a machine that rests can only have another word, if it has one. -/
theorem Rests.halt?_eq (h : m.Rests m') {r : FaultReport} (hr : m.halt? = some (.fault r)) :
    ∃ r', m'.halt? = some (.fault r') ∧ r'.code = r.code ∧ r'.address = r.address ∧
      (r.opcode = none ∨ m'.word = m.word → r'.opcode = r.opcode) := by
  obtain ⟨herror, hcode, haddress, hopcode⟩ := eq_of_halt?_eq_fault hr
  have hne : r.code ≠ .clear := by
    intro hclear
    rw [hclear, ofNumber?_eq_clear_iff] at hcode
    exact herror hcode
  have hcode' : FaultCode.ofNumber? m'.error.toNat = some r.code := by
    rw [h.error_eq, hcode]
  refine ⟨_, halt?_of_code hcode' hne, rfl, ?_, fun hw => ?_⟩
  · rw [haddress, h.pc_eq]
  · rw [hopcode, h.hasWord_eq]
    rcases hw with hnone | hword
    · -- the word would be past the end of memory, as it was
      rw [hopcode] at hnone
      have hno : ¬ m.hasWord = true := by
        intro hyes
        rw [if_pos hyes] at hnone
        cases hnone
      rw [if_neg hno, if_neg hno]
    · rw [hword]

end Machine

/-! ## Operations on a stopped machine -/

/-- The operations that ask for cycles, and for no more than can be counted, with a bar or
without. -/
inductive Operation.Counts : Operation → Prop
  | step : Counts (.command .step)
  | run (n : Nat) (showBar : Bool) (hlt : n < 0x80000000) : Counts (.command (.run n showBar))
  | cycles (n : Nat) (showBar : Bool) (hlt : n < 0x80000000) :
      Counts (.cycles (.int n) (.bool showBar))

namespace Session

open Machine

variable {s : Session} {o : Operation} {out : Outcome}

/-- Where an operation reports a fault, the machine stopped with it. -/
theorem Effect.halt?_eq (h : Effect s o out) {x : Halt} (hf : out.failure = some (.halt x)) :
    out.session.machine.halt? = some x := by
  cases h with
  | refused f hk hne => exact absurd (Option.some.inj hf) (hne x)
  | counted c =>
    rw [failure_counted, Option.map_eq_some_iff] at hf
    obtain ⟨y, hy, hyx⟩ := hf
    cases hyx
    rw [session_counted]
    exact hy
  | restarted | loaded | keyed | looked => cases hf

/-- A stopped machine rests, whatever is asked of its session but a restart. -/
theorem Effect.rests (h : Effect s o out) (hs : s.machine.halted = true)
    (hk : o.kind ≠ .restart) : s.machine.Rests out.session.machine := by
  cases h with
  | refused => exact .refl _
  | counted c =>
    rw [session_counted, run_of_halted _ hs]
    exact .refl _
  | restarted h => exact absurd h hk
  | loaded | keyed | looked => rfl

/-- Cycles leave a stopped machine exactly as it is. -/
theorem Effect.machine_of_cycles (h : Effect s o out) (hs : s.machine.halted = true)
    (hk : o.kind = .cycles) : out.session.machine = s.machine := by
  cases h with
  | refused => rfl
  | counted c => rw [session_counted, run_of_halted _ hs]
  | restarted h | loaded _ h | keyed _ h | looked h =>
    rw [hk] at h
    cases h

/-- A session with a stopped machine records nothing. -/
theorem Effect.records_of_halted (h : Effect s o out) (hs : s.machine.halted = true) :
    out.report.records = [] := by
  cases h with
  | counted c => rw [records_counted, trace_of_halted hs, ite_self]
  | refused | restarted | loaded | keyed | looked => rfl

/-- Nothing but a program that is taken changes the memory of a stopped machine. -/
theorem Effect.memory_of_halted (h : Effect s o out) (hs : s.machine.halted = true)
    (hk : o.kind ≠ .restart) (htaken : o.taken? out = none) :
    out.session.machine.memory = s.machine.memory := by
  cases h with
  | counted c => rw [session_counted, run_of_halted _ hs]
  | restarted h => exact absurd h hk
  | loaded note _ hi =>
    rw [Operation.taken?, hi] at htaken
    cases htaken
  | refused | keyed | looked => rfl

/-- By induction on the history: a stopped machine rests until it is restarted. -/
theorem rests_operateAll {history : List Operation} (hs : s.machine.halted = true)
    (hk : ∀ o ∈ history, o.kind ≠ .restart) :
    s.machine.Rests (s.operateAll history).machine := by
  induction history generalizing s with
  | nil => exact .refl _
  | cons o rest ih =>
    have hstep := (effect_operate s o).rests hs (hk o List.mem_cons_self)
    have hhalted := hstep.halted_eq.trans hs
    exact hstep.trans (ih hhalted fun o ho => hk o (List.mem_cons_of_mem _ ho))

theorem memory_operateAll {history : List Operation} (hs : s.machine.halted = true)
    (hk : ∀ o ∈ history, o.kind ≠ .restart) (hnone : s.acceptedImages history = []) :
    (s.operateAll history).machine.memory = s.machine.memory := by
  induction history generalizing s with
  | nil => rfl
  | cons o rest ih =>
    have heffect := effect_operate s o
    have hfirst := hk o List.mem_cons_self
    have hhalted := (heffect.rests hs hfirst).halted_eq.trans hs
    rw [acceptedImages, List.append_eq_nil_iff, Option.toList_eq_nil_iff] at hnone
    obtain ⟨htaken, hrest⟩ := hnone
    rw [operateAll, ih hhalted (fun o ho => hk o (List.mem_cons_of_mem _ ho)) hrest]
    exact heffect.memory_of_halted hs hfirst htaken

/-- Cycles that can be counted end with what stopped the machine before them. -/
theorem failure_of_counts {x : Halt} (hx : s.machine.halt? = some x) (ho : o.Counts) :
    (s.operate o).failure = some (.halt x) := by
  have hs := halted_of_halt? hx
  cases ho with
  | step =>
    rw [operate, failure_step, cycle_of_halted _ hs, hx]
    rfl
  | run n showBar hlt =>
    rw [operate, perform_run_of_lt s hlt, failure_counted, run_of_halted _ hs, hx]
    rfl
  | cycles n showBar hlt =>
    rw [operate, runFor_of_lt s hlt, failure_counted, run_of_halted _ hs, hx]
    rfl

/-- **The report of a fault stays until a restart.**  Once an operation reported a fault, the
machine is stopped for good: whatever a host goes on to ask for, other than a restart, leaves
all of it as it was but for the memory, the keys and the flag of the screen; the memory too, if
no program is taken.  Cycles change nothing at all and nothing is recorded.  Whenever cycles are
asked for, as many as can be counted, the report is made again, with the same code and the same
address, and with the same instruction if it had none, if no program was taken since, or if the
word in memory is the one it was.  More cycles than that are refused, and nothing is done. -/
theorem fault_stays {first : Operation} {r : FaultReport}
    (hfault : (s.operate first).failure = some (.halt (.fault r))) {later : List Operation}
    (hlater : ∀ o ∈ later, o.kind ≠ .restart) :
    let t := (s.operate first).session
    let u := t.operateAll later
    u.halted = true ∧
    u.machine = { t.machine with
      memory := u.machine.memory
      keypad := u.machine.keypad
      redraw := u.machine.redraw } ∧
    (t.acceptedImages later = [] → u.machine.memory = t.machine.memory) ∧
    (∀ o, o.kind = .cycles → (u.operate o).session.machine = u.machine) ∧
    (∀ o, (u.operate o).report.records = []) ∧
    (∀ o, o.Counts → ∃ r', (u.operate o).failure = some (.halt (.fault r')) ∧
      r'.code = r.code ∧ r'.address = r.address ∧
      (r.opcode = none ∨ t.acceptedImages later = [] ∨ u.machine.word = t.machine.word →
        r'.opcode = r.opcode)) ∧
    (∀ n : Nat, 0x80000000 ≤ n → ∀ showBar : Bool, ∃ e,
      u.operate (.command (.run n showBar)) = u.refused (.width e) ∧
      u.operate (.cycles (.int n) (.bool showBar)) = u.refused (.width e)) := by
  intro t u
  have hstopped : t.machine.halt? = some (.fault r) := (effect_operate s first).halt?_eq hfault
  have hhalted := halted_of_halt? hstopped
  have hrests : t.machine.Rests u.machine := rests_operateAll hhalted hlater
  have hu : u.machine.halted = true := hrests.halted_eq.trans hhalted
  have hmemory := memory_operateAll hhalted hlater
  refine ⟨hu, hrests, hmemory, fun o ho => (effect_operate u o).machine_of_cycles hu ho,
    fun o => (effect_operate u o).records_of_halted hu, ?_, ?_⟩
  · intro o ho
    obtain ⟨r', hr', hcode, haddress, hopcode⟩ := hrests.halt?_eq hstopped
    refine ⟨r', failure_of_counts hr' ho, hcode, haddress, fun hw => hopcode ?_⟩
    rcases hw with hnone | hnothing | hword
    · exact .inl hnone
    · exact .inr (hrests.word_eq (hmemory hnothing))
    · exact .inr hword
  · intro n hn showBar
    obtain ⟨e, he⟩ := u.perform_run_of_le hn showBar
    exact ⟨e, he, (u.runFor_int n showBar).trans he⟩

/-- What a host can try on a machine that stopped. -/
def attempts : List Operation :=
  [.cycles (.int 0) (.bool false), .command (.press 99), .command (.press 3), .command .acknowledge,
    .command (.loadFile "none" (.error (.missing "none"))), .cycles (.int (-1)) (.bool true)]

theorem fault_stays_returningAtOnce :
    (returningAtOnce.operate (.command .step)).failure =
      some (.halt (.fault ⟨.stackUnderflow, 0x200, some 0x00EE⟩)) ∧
    (((returningAtOnce.operate (.command .step)).session.operateAll attempts).operate
      (.cycles (.int 9) (.bool true))).failure =
      some (.halt (.fault ⟨.stackUnderflow, 0x200, some 0x00EE⟩)) := by
  obtain ⟨hfault, hnothing⟩ :
      (returningAtOnce.operate (.command .step)).failure =
        some (.halt (.fault ⟨.stackUnderflow, 0x200, some 0x00EE⟩)) ∧
      (returningAtOnce.operate (.command .step)).session.acceptedImages attempts = [] := by
    decide +kernel
  have hlater : ∀ o ∈ attempts, o.kind ≠ .restart := by
    decide
  obtain ⟨-, -, -, -, -, hreport, -⟩ := fault_stays hfault hlater
  obtain ⟨⟨code, address, opcode⟩, hr, rfl, rfl, hopcode⟩ :=
    hreport _ (.cycles 9 true (by decide))
  obtain rfl : opcode = some 0x00EE := hopcode (.inr (.inl hnothing))
  exact ⟨hfault, hr⟩

/-- A return without a call was done and went wrong.  Then a jump is loaded over it, which was
never done, and the next report says that it was the jump. -/
theorem fault_misnamed_after_load :
    let t := (returningAtOnce.operate (.command .step)).session
    (returningAtOnce.operate (.command .step)).failure =
      some (.halt (.fault ⟨.stackUnderflow, 0x200, some 0x00EE⟩)) ∧
    ((t.operate (.command (.load (.bytes [0x12, 0x00])))).session.operate
      (.command .step)).failure =
      some (.halt (.fault ⟨.stackUnderflow, 0x200, some 0x1200⟩)) := by
  decide +kernel

end Session

end ChipEight
