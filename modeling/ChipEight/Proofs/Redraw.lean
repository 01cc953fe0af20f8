import ChipEight.Proofs.CycleCases
import ChipEight.Proofs.Operations

/-!
# What a host has seen of the screen

A host looks at the screen when the machine asks for it (`needs_redraw`), and says that it did
(`acknowledge_redraw`).  It can rely on that as long as every change of the screen asks to be shown
and nothing but the host itself takes the question back.  Cycles do so, with a fault or without:
`execute_clear_screen` and `execute_display` both ask.  A restart does not: `reset` darkens the
screen and, being a machine that was just switched on, asks for nothing.

* `Machine.screen_run_of_redraw` — after cycles that leave nothing to be shown the screen is
  what it was.
* `Session.View` — what a host knows: the screen it saw last, and whether the session was
  restarted since.
* `Session.View.Holds` — what it may conclude from that when nothing asks to be shown, and
  `Session.View.Holds.operateAll` — it may do so after every history.
* `Session.restart_unseen` — a restart that changes the screen and asks for nothing.
-/

namespace ChipEight

namespace Machine

/-! ## Cycles -/

/-- A cycle that leaves nothing to be shown found nothing to be shown and left the screen alone. -/
theorem screen_cycle_of_redraw {m : Machine} (h : m.cycle.redraw = false) :
    m.redraw = false ∧ m.cycle.screen = m.screen := by
  by_cases he : m.cycle.error = 0
  · obtain ⟨i, hi⟩ := executes_of_error_cycle he
    rw [hi.redraw_cycle, Bool.or_eq_false_iff] at h
    exact ⟨h.1, hi.screen_cycle h.2⟩
  · -- the screen of a cycle that goes wrong is taken back with everything else
    rw [cycle_of_error he] at h ⊢
    exact ⟨h, rfl⟩

/-- By induction on the cycles: if nothing is to be shown after a run, nothing was to be shown
before it, and the screen is what it was. -/
theorem screen_run_of_redraw {m : Machine} {n : Nat} (h : (m.run n).redraw = false) :
    m.redraw = false ∧ (m.run n).screen = m.screen := by
  induction n generalizing m with
  | zero => exact ⟨h, rfl⟩
  | succ n ih =>
    obtain ⟨hredraw, hscreen⟩ := ih h
    obtain ⟨hbefore, hcycle⟩ := screen_cycle_of_redraw hredraw
    exact ⟨hbefore, hscreen.trans hcycle⟩

end Machine

namespace Session

theorem screen_start (s : Session) : s.start.screen = Screen.dark := by
  unfold start
  split <;> rfl

theorem redraw_start (s : Session) : s.start.redraw = false := by
  unfold start
  split <;> rfl

/-! ## Views -/

/-- What a host knows of the screen. -/
structure View where
  /-- The screen as the host saw it last, or as it was in the beginning. -/
  seen : Screen
  /-- Whether the session was restarted since. -/
  restarted : Bool

namespace View

/-- The view of a host that looks at the screen. -/
def of (s : Session) : View := ⟨s.machine.screen, false⟩

/-- The view after an operation that left this session behind. -/
def after (v : View) (o : Operation) (t : Session) : View :=
  match o.kind with
  | .look => of t
  | .restart => { v with restarted := true }
  | _ => v

/-- What a host may conclude when nothing asks to be shown: the screen is the one it saw, or a
dark one if the session was restarted since. -/
def Holds (v : View) (s : Session) : Prop :=
  s.wantsRedraw = false → s.machine.screen = if v.restarted then Screen.dark else v.seen

end View

/-- The view after a history. -/
def viewAll (s : Session) (v : View) : List Operation → View
  | [] => v
  | o :: rest => (s.operate o).session.viewAll (v.after o (s.operate o).session) rest

namespace View

variable {v : View} {s t : Session} {o : Operation}

theorem holds_of (s : Session) : (of s).Holds s := fun _ => rfl

theorem after_of_look (h : o.kind = .look) : v.after o t = of t := by
  simp only [after, h]

theorem after_of_restart (h : o.kind = .restart) :
    v.after o t = { v with restarted := true } := by
  simp only [after, h]

theorem after_of_ne (hr : o.kind ≠ .restart) (hl : o.kind ≠ .look) : v.after o t = v := by
  unfold after
  split
  · rename_i h
    exact absurd h hl
  · rename_i h
    exact absurd h hr
  · rfl

/-- A change that asks to be shown, or is none, leaves the view as good as it was. -/
theorem Holds.of_quiet (hv : v.Holds s)
    (h : t.wantsRedraw = false →
      s.wantsRedraw = false ∧ t.machine.screen = s.machine.screen) : v.Holds t := by
  intro hflag
  obtain ⟨hbefore, hscreen⟩ := h hflag
  rw [hscreen]
  exact hv hbefore

/-- Whatever a session does, what its host may conclude from the last look at the screen still holds
afterwards. -/
theorem Holds.effect {out : Outcome} (hv : v.Holds s) (h : Effect s o out) :
    (v.after o out.session).Holds out.session := by
  cases h with
  | refused f hk =>
    rw [after_of_ne hk.1 hk.2]
    exact hv
  | counted c hk =>
    rw [after_of_ne (by simp [hk]) (by simp [hk])]
    refine hv.of_quiet fun hflag => ?_
    rw [session_counted] at hflag ⊢
    exact Machine.screen_run_of_redraw hflag
  | restarted hk =>
    rw [after_of_restart hk]
    exact fun _ => screen_start s
  | loaded note hk | keyed pad hk =>
    rw [after_of_ne (by simp [hk]) (by simp [hk])]
    exact hv.of_quiet fun hflag => ⟨hflag, rfl⟩
  | looked hk =>
    rw [after_of_look hk]
    exact holds_of _

/-- The history: a host that follows the operations can always tell. -/
theorem Holds.operateAll (hv : v.Holds s) (history : List Operation) :
    (s.viewAll v history).Holds (s.operateAll history) := by
  induction history generalizing s v with
  | nil => exact hv
  | cons o rest ih => exact ih (hv.effect (effect_operate s o))

end View

/-! ## A restart goes unseen -/

/-- A program that draws a glyph. -/
def glyphProgram : Image := [0xA0, 0x00, 0xD0, 0x05]

/-- A session that is about to draw a glyph. -/
def glyphAhead : Session :=
  (fresh ⟨0, 0⟩ .legacy false).operateAll
    [.command (.load (.bytes glyphProgram)), .command .step]

/-- The session after the glyph was drawn and the host has looked at it. -/
def glyphSeen : Session := glyphAhead.operateAll [.command .step, .command .acknowledge]

theorem screen_draw {m : Machine} {x y n : Nibble} (h : m.Executes (.draw x y n)) :
    m.cycle.screen = (m.sprite x y n).flip m.memory m.screen := by
  rw [h.cycle_eq]
  rfl

theorem screen_step_look (s : Session) :
    (s.operateAll [.command .step, .command .acknowledge]).machine.screen =
      s.machine.cycle.screen := by
  simp only [operateAll, operate, session_step]
  rfl

theorem lit_glyphSeen : glyphSeen.machine.screen[0] = true := by
  obtain ⟨hrunning, hwhole, hreads, hfaultless, hdark, hcovers⟩ :
      glyphAhead.machine.error = 0 ∧ glyphAhead.machine.hasWord = true ∧
      Instruction.ofWord? glyphAhead.machine.word = some (.draw 0 0 5) ∧
      glyphAhead.machine.faultOf (.draw 0 0 5) = .clear ∧
      glyphAhead.machine.screen[0] = false ∧
      (glyphAhead.machine.sprite 0 0 5).covers glyphAhead.machine.memory 0 = true := by
    decide +kernel
  have hdraw : glyphAhead.machine.Executes (.draw 0 0 5) :=
    ⟨hrunning, hwhole, hreads, hfaultless⟩
  have hscreen := (screen_step_look glyphAhead).trans (screen_draw hdraw)
  simp only [glyphSeen, hscreen, Sprite.getElem_flip, hdark, hcovers, Bool.false_xor]

/-- The restart takes the glyph from the screen and asks for nothing to be shown. -/
theorem restart_unseen :
    (glyphSeen.operate (.command .reset)).session.wantsRedraw = false ∧
    (glyphSeen.operate (.command .reset)).session.machine.screen ≠ glyphSeen.machine.screen := by
  have hscreen : (glyphSeen.operate (.command .reset)).session.machine.screen = Screen.dark :=
    screen_start glyphSeen
  refine ⟨redraw_start glyphSeen, fun h => ?_⟩
  have hlit := lit_glyphSeen
  simp only [← h, hscreen, Screen.dark, Vector.getElem_replicate] at hlit
  exact Bool.false_ne_true hlit

end Session

end ChipEight
