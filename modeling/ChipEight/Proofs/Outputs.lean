import ChipEight.Proofs.Lockstep
import ChipEight.Proofs.Operations

/-!
# What only goes out

Two things a machine keeps for its host alone: whether the screen waits to be shown (`draw_flag`),
and how long the sound still lasts (`sound_timer`).  Instructions write both and read neither.  So
two machines that differ in nothing else go on to differ in nothing else, through faults and all,
and a host may look at the screen whenever it likes, or never: the session it looks at goes the same
way.

* `Machine.withOutputs` — a machine with other outputs; `Machine.perform_withOutputs` — an
  instruction does the same to both.
* `Machine.SameInside` — machines that differ in their outputs at most, with `SameInside.cycle`
  for a step and `SameInside.run` for a run.
* `Session.SameUnseen` — sessions that differ in nothing but what waits to be shown, and
  `Session.SameUnseen.operate` — they answer every operation alike.
* `Session.outputs_unread` — where a host looks at the screen makes no difference.
-/

namespace ChipEight

namespace Machine

/-- The machine with other outputs. -/
def withOutputs (m : Machine) (redraw : Bool) (sound : UInt8) : Machine :=
  { m with redraw := redraw, sound := sound }

/-- Differing in the outputs at most. -/
def SameInside (m m' : Machine) : Prop := m' = m.withOutputs m'.redraw m'.sound

section

variable (m : Machine) (redraw : Bool) (sound : UInt8)

/-- The outputs have no part in what is fetched, nor in what goes wrong. -/
theorem inStep_withOutputs : m.InStep (m.withOutputs redraw sound) where
  error := rfl
  pc := rfl
  memory := rfl
  faultOf i := by cases i <;> rfl

theorem putResult_withOutputs (x : Nibble) (r : Arithmetic.Result) :
    (m.withOutputs redraw sound).putResult x r = (m.putResult x r).withOutputs redraw sound := by
  unfold putResult
  split <;> rfl

theorem movedIndex_withOutputs (x : Nibble) :
    (m.withOutputs redraw sound).movedIndex x = (m.movedIndex x).withOutputs redraw sound := by
  simp only [movedIndex, withOutputs]
  split <;> rfl

/-- **An instruction reads no output.**  It does the same to a machine with other outputs, and
what it leaves in them is its own or what was there. -/
theorem perform_withOutputs (i : Instruction) :
    (m.withOutputs redraw sound).perform i =
      (m.perform i).withOutputs ((m.withOutputs redraw sound).redrawAfter i)
        ((m.withOutputs redraw sound).soundAfter i) := by
  cases i with
  | alu op x y =>
    show ((m.withOutputs redraw sound).putResult x _).next = _
    rw [putResult_withOutputs]
    rfl
  | awaitKey x =>
    simp only [perform, withOutputs]
    split <;> rfl
  | store x =>
    simp only [perform]
    show ((({ m with memory := _ }.withOutputs redraw sound).movedIndex x).stopIf _ _).next = _
    rw [movedIndex_withOutputs]
    rfl
  | restore x =>
    simp only [perform]
    show ((({ m with registers := _ }.withOutputs redraw sound).movedIndex x).stopIf _ _).next = _
    rw [movedIndex_withOutputs]
    rfl
  | _ => rfl

end

/-! ## Cycles and runs -/

namespace SameInside

variable {m m' : Machine}

theorem inStep (h : m.SameInside m') : m.InStep m' := by
  rw [h]
  exact inStep_withOutputs m _ _

/-- Machines that differ in their outputs at most still do after a cycle of each, and where the
sound lasted as long it still does. -/
theorem cycle (h : m.SameInside m') :
    m.cycle.SameInside m'.cycle ∧ (m'.sound = m.sound → m'.cycle.sound = m.cycle.sound) := by
  obtain ⟨redraw, sound, rfl⟩ : ∃ redraw sound, m' = m.withOutputs redraw sound := ⟨_, _, h⟩
  apply h.inStep.cycle (R := fun a b => a.SameInside b ∧ (sound = m.sound → b.sound = a.sound))
  · -- a fault brings everything back, the outputs included
    intro code
    exact ⟨rfl, id⟩
  · intro i hi
    rw [perform_withOutputs]
    refine ⟨rfl, ?_⟩
    rintro rfl
    have hsound : (m.perform i).sound = m.soundAfter i := by rw [perform_eq]
    show (if m.soundAfter i == 0 then 0 else m.soundAfter i - 1) = _
    rw [← hsound]
    rfl

/-- So they do after any number of cycles, and the cycles leave the same trace. -/
theorem run (h : m.SameInside m') (n : Nat) :
    (m.run n).SameInside (m'.run n) ∧ (m'.sound = m.sound → (m'.run n).sound = (m.run n).sound) ∧
      m'.trace n = m.trace n := by
  have hrun : ∀ n, (m.run n).SameInside (m'.run n) ∧
      (m'.sound = m.sound → (m'.run n).sound = (m.run n).sound) := by
    apply run_of_cycle
      (R := fun a b => a.SameInside b ∧ (m'.sound = m.sound → b.sound = a.sound))
    · rintro a b ⟨hab, hsound⟩
      obtain ⟨hcycle, hkeeps⟩ := hab.cycle
      exact ⟨hcycle, fun hs => hkeeps (hsound hs)⟩
    · exact ⟨h, id⟩
  refine ⟨(hrun n).1, (hrun n).2, ?_⟩
  apply trace_of_inStep
  intro k _
  exact (hrun k).1.inStep

end SameInside

end Machine

/-! ## Operations -/

/-- Whether an operation only tells a session that its screen was seen. -/
def Operation.looks (o : Operation) : Bool := decide (o.kind = .look)

/-- The session with another word on whether its screen waits to be shown. -/
def Session.flagged (s : Session) (redraw : Bool) : Session :=
  s.withMachine (s.machine.withOutputs redraw s.machine.sound)

/-- The outcome with another word on whether the screen waits to be shown. -/
def Outcome.flagged (out : Outcome) (redraw : Bool) : Outcome :=
  { out with session := out.session.flagged redraw }

/-- What a bar is asked for does not depend on what it accompanies. -/
theorem Progress.Bar.snd_scan {σ : Type} (b : Bar) (body : σ → Int → σ) (s s' : σ)
    (is : List Int) : (b.scan body s' is).2 = (b.scan body s is).2 := by
  induction is generalizing b s s' with
  | nil => rfl
  | cons i rest ih =>
    simp only [scan]
    rw [ih _ (body s i) (body s' i)]

namespace Session

variable (s : Session) (redraw : Bool)

/-- The runs of both differ in nothing but what waits to be shown. -/
theorem run_flagged (n : Nat) :
    ∃ r, (s.flagged redraw).machine.run n =
      (s.machine.run n).withOutputs r (s.machine.run n).sound := by
  have hsame : s.machine.SameInside (s.flagged redraw).machine := rfl
  obtain ⟨hrun, hsound, -⟩ := hsame.run n
  refine ⟨((s.flagged redraw).machine.run n).redraw, ?_⟩
  rw [← hsound rfl]
  exact hrun

theorem snd_advanced (m m' : Machine) (n : Int) (plan : Option Progress.Plan) :
    (advanced m' n plan).2 = (advanced m n plan).2 := by
  cases plan with
  | none => rfl
  | some p => exact Progress.Bar.snd_scan _ _ _ _ _

theorem checked_flagged (r : Report) :
    (s.flagged redraw).checked r = (s.checked r).flagged redraw := by
  have hhalt : (s.flagged redraw).machine.halt? = s.machine.halt? := rfl
  unfold checked
  rw [hhalt]
  split <;> rfl

/-- Cycles are counted and reported alike. -/
theorem counted_flagged (c : Count) :
    ∃ r, (s.flagged redraw).counted c = (s.counted c).flagged r := by
  have hsame : s.machine.SameInside (s.flagged redraw).machine := rfl
  obtain ⟨-, -, htrace⟩ := hsame.run c.cycles.toNat
  obtain ⟨r, hrun⟩ := s.run_flagged redraw c.cycles.toNat
  refine ⟨r, ?_⟩
  simp only [counted, htrace, fst_advanced, hrun, ← checked_flagged]
  rw [snd_advanced s.machine (s.flagged redraw).machine]
  rfl

theorem cycled_flagged (c : Count) :
    ∃ r, (s.flagged redraw).cycled c = (s.cycled c).flagged r := by
  unfold cycled
  split
  · exact ⟨redraw, rfl⟩
  · exact s.counted_flagged redraw c

/-- What is asked about the keys has the same answer. -/
theorem withKeys_flagged {r r' : Except KeyError Machine}
    (h : r' = r.map fun m => m.withOutputs redraw m.sound) :
    (s.flagged redraw).withKeys r' = (s.withKeys r).flagged redraw := by
  subst h
  cases r <;> rfl

theorem hold_withOutputs (m : Machine) (input : KeyInput) :
    (m.withOutputs redraw m.sound).hold input =
      (m.hold input).map fun m => m.withOutputs redraw m.sound := by
  unfold Machine.hold
  split
  · rfl
  · rename_i sel _
    cases sel.keypad <;> rfl

theorem moveKey_withOutputs (m : Machine) (key : Int) (down : Bool) :
    (m.withOutputs redraw m.sound).moveKey key down =
      (m.moveKey key down).map fun m => m.withOutputs redraw m.sound := by
  unfold Machine.moveKey
  split <;> rfl

/-- **Every operation but a look answers the same**, and what it leaves differs in nothing but what
waits to be shown. -/
theorem operate_flagged {o : Operation} (h : o.looks = false) :
    ∃ r, (s.flagged redraw).operate o = (s.operate o).flagged r := by
  cases o with
  | cycles number showBar =>
    simp only [operate, runFor]
    split
    · exact ⟨redraw, rfl⟩
    · exact s.cycled_flagged redraw _
  | command c =>
    cases c with
    | step => exact s.cycled_flagged redraw (.whole 1 false)
    | run cycles showBar => exact s.cycled_flagged redraw (.whole cycles showBar)
    | reset => exact ⟨s.start.redraw, rfl⟩
    | load p =>
      refine ⟨redraw, ?_⟩
      simp only [operate, perform, Machine.loadFrom]
      cases p.image with
      | error e => rfl
      | ok image =>
        simp only [Machine.load]
        by_cases hfit : image.length ≤ Layout.imageCapacity
        · simp only [if_pos hfit]
          rfl
        · simp only [if_neg hfit]
          rfl
    | loadFile name content =>
      refine ⟨redraw, ?_⟩
      cases content with
      | error e => rfl
      | ok image =>
        simp only [operate, perform, Machine.load]
        by_cases hfit : image.length ≤ Layout.imageCapacity
        · simp only [if_pos hfit]
          rfl
        · simp only [if_neg hfit]
          rfl
    | hold input => exact ⟨redraw, s.withKeys_flagged redraw (hold_withOutputs redraw _ input)⟩
    | press key => exact ⟨redraw, s.withKeys_flagged redraw (moveKey_withOutputs redraw _ key true)⟩
    | release key =>
      exact ⟨redraw, s.withKeys_flagged redraw (moveKey_withOutputs redraw _ key false)⟩
    | acknowledge => cases h

/-- A look changes nothing but what waits to be shown, and has nothing to say. -/
theorem operate_look {o : Operation} (h : o.looks = true) :
    s.operate o = { session := s.flagged false } := by
  cases o with
  | cycles => cases h
  | command c =>
    cases c with
    | acknowledge => rfl
    | _ => cases h

/-! ## Histories -/

/-- What the operations of a history that are no looks leave behind and have to say, whether the
screen waits to be shown left out. -/
def answers (s : Session) : List Operation → List Outcome
  | [] => []
  | o :: rest =>
    if o.looks then (s.operate o).session.answers rest
    else (s.operate o).flagged false :: (s.operate o).session.answers rest

/-- **Looks can be left out**, whatever waits to be shown in the beginning. -/
theorem without_looks (s : Session) (redraw : Bool) (history : List Operation) :
    (s.flagged redraw).answers (history.filter fun o => !o.looks) = s.answers history ∧
      ∃ r, (s.flagged redraw).operateAll (history.filter fun o => !o.looks) =
        (s.operateAll history).flagged r := by
  induction history generalizing s redraw with
  | nil => exact ⟨rfl, redraw, rfl⟩
  | cons o rest ih =>
    by_cases ho : o.looks = true
    · have hsession : (s.operate o).session = s.flagged false := by rw [operate_look s ho]
      simp only [List.filter_cons, ho, Bool.not_true, Bool.false_eq_true, if_false, answers,
        operateAll, if_true, hsession]
      exact ih (s.flagged false) redraw
    · have hno : o.looks = false := by simpa using ho
      obtain ⟨r, hr⟩ := s.operate_flagged redraw hno
      simp only [List.filter_cons, hno, Bool.not_false, if_true, answers, operateAll,
        Bool.false_eq_true, if_false, hr]
      obtain ⟨hanswers, hsession⟩ := ih (s.operate o).session r
      refine ⟨?_, hsession⟩
      show (s.operate o).flagged false :: ((s.operate o).session.flagged r).answers _ = _
      rw [hanswers]

/-- **The outputs are read by nobody inside.**  Two machines that differ in nothing but in whether
the screen waits to be shown and in how long the sound lasts differ in nothing else after any
number of cycles, which end in the same fault, if in any, and leave the same trace.  And two
histories of a session that differ in nothing but in when the host looked at the screen leave
sessions that differ in nothing but in what waits to be shown; every operation that is no look
leaves the same but for that, says the same and fails for the same reason, and a look itself never
fails. -/
theorem outputs_unread {m m' : Machine}
    (hsame : m' = { m with redraw := m'.redraw, sound := m'.sound }) (n : Nat) (s : Session)
    {history history' : List Operation}
    (hlooks : (history'.filter fun o => !o.looks) = history.filter fun o => !o.looks) :
    (m'.run n = { m.run n with redraw := (m'.run n).redraw, sound := (m'.run n).sound } ∧
      (m'.run n).halt? = (m.run n).halt? ∧ m'.trace n = m.trace n) ∧
    s.operateAll history' =
      (s.operateAll history).flagged (s.operateAll history').machine.redraw ∧
    s.answers history' = s.answers history ∧
    ∀ (t : Session) (o : Operation), o.looks = true →
      t.operate o = { session := t.flagged false } := by
  have hinside : m.SameInside m' := hsame
  obtain ⟨hrun, -, htrace⟩ := hinside.run n
  refine ⟨⟨hrun, hrun.inStep.halt?_eq, htrace⟩, ?_, ?_, fun t o => t.operate_look⟩
  · obtain ⟨-, r, hr⟩ := without_looks s s.machine.redraw history
    obtain ⟨-, r', hr'⟩ := without_looks s s.machine.redraw history'
    rw [hlooks, hr] at hr'
    -- both are what is left without looks, but for what waits to be shown
    let flag := (s.operateAll history').machine.redraw
    calc s.operateAll history'
      _ = ((s.operateAll history').flagged r').flagged flag := rfl
      _ = ((s.operateAll history).flagged r).flagged flag := by rw [hr']
      _ = (s.operateAll history).flagged flag := rfl
  · have hleft := (without_looks s s.machine.redraw history).1
    have hleft' := (without_looks s s.machine.redraw history').1
    rw [hlooks, hleft] at hleft'
    exact hleft'.symm

/-- A program that starts the sound, clears the screen and returns from nowhere. -/
def beep : Image := [0x61, 0x05, 0xF1, 0x18, 0x00, 0xE0, 0x00, 0xEE]

/-- What a host does that looks at the screen twice, the first time for nothing. -/
def attentive : List Operation :=
  [.command .acknowledge, .command (.load (.bytes beep)), .command (.run 3 false),
    .command .acknowledge, .command (.press 4), .command .step]

/-- What a host does that never looks. -/
def absent : List Operation :=
  [.command (.load (.bytes beep)), .command (.run 3 false), .command (.press 4), .command .step]

/-- The screen was cleared and waits to be shown to the host that never looks.  Both stop where the
program returns from nowhere. -/
theorem outputs_unread_beep :
    let m := (Machine.fresh .legacy ⟨0, 0⟩).withImage beep
    let s := fresh ⟨0, 0⟩ .legacy true
    (m.withOutputs true 9).trace 4 = m.trace 4 ∧
    ((m.withOutputs true 9).run 4).halt? = some (.fault ⟨.stackUnderflow, 0x206, some 0x00EE⟩) ∧
    s.answers absent = s.answers attentive ∧
    s.operateAll absent = (s.operateAll attentive).flagged true ∧
    (s.operateAll attentive).wantsRedraw = false := by
  intro m s
  obtain ⟨hstop, hflag, hseen⟩ :
      (m.run 4).halt? = some (.fault ⟨.stackUnderflow, 0x206, some 0x00EE⟩) ∧
      (s.operateAll absent).machine.redraw = true ∧
      (s.operateAll attentive).wantsRedraw = false := by
    decide +kernel
  obtain ⟨⟨-, hhalt, htrace⟩, hsession, hanswers, -⟩ :=
    @outputs_unread m (m.withOutputs true 9) rfl 4 s attentive absent rfl
  rw [hflag] at hsession
  exact ⟨htrace, hhalt.trans hstop, hanswers, hsession, hseen⟩

end Session

end ChipEight
