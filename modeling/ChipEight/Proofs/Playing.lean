import ChipEight.Player
import ChipEight.Proofs.Redraw

/-!
# What the window of a player shows

A player (`run_emulator`) paints its window at the end of a turn, but only if something is to be
shown or the debug display is on.  Between two pictures it relies on the session to ask.  So the
window is right after every turn, unless the reset key was pressed since the last picture: the
machine was restarted then, its screen is dark, and the window may go on showing what was there
before.

* `Player.Keeps` — what the parts of a turn leave alone, and what they leave of a view.
* `Player.turn_spec` — how a turn without an error ends.
* `Player.Showing` — a player with what its window shows, turn by turn.
* `Player.shown_unless_restarted` — the screen a host has seen, or a player shows, is out of
  date only by a restart.
-/

namespace ChipEight

namespace Player

open Session

/-! ## The parts of a turn -/

/-- The picture the player would paint if its screen were this one. -/
def pictureOf (p : Player) (screen : Screen) : Except PlayError Picture :=
  let machine := { p.session.machine with screen := screen }
  { p with session := p.session.withMachine machine }.frame

/-- What a part of a turn that takes `p` to `q` keeps: how the window is painted, and what may
be concluded from the view a host had before, which is `w` now. -/
structure Keeps (v w : View) (p q : Player) : Prop where
  room : q.room = p.room
  scale : q.scale = p.scale
  window : q.window = p.window
  palette : q.palette = p.palette
  holds : v.Holds p.session → w.Holds q.session

namespace Keeps

variable {u v w : View} {p q r : Player}

theorem refl (v : View) (p : Player) : Keeps v v p p := ⟨rfl, rfl, rfl, rfl, id⟩

theorem trans (h : Keeps u v p q) (k : Keeps v w q r) : Keeps u w p r where
  room := k.room.trans h.room
  scale := k.scale.trans h.scale
  window := k.window.trans h.window
  palette := k.palette.trans h.palette
  holds hu := k.holds (h.holds hu)

theorem pictureOf_eq (h : Keeps v w p q) (screen : Screen) :
    q.pictureOf screen = p.pictureOf screen := by
  simp only [pictureOf, frame, withMachine, h.room, h.scale, h.window, h.palette]

end Keeps

/-- The view after an event: the reset key restarts the session. -/
def onEvent (v : View) (e : HostEvent) : View :=
  if e = .down "F5" then { v with restarted := true } else v

theorem onEvent_of_ne {v : View} {e : HostEvent} (h : e ≠ .down "F5") : onEvent v e = v :=
  if_neg h

/-- A command that is no restart and no look keeps every view. -/
theorem keeps_command (v : View) (p : Player) (c : Command)
    (hr : (Operation.command c).kind ≠ .restart) (hl : (Operation.command c).kind ≠ .look) :
    Keeps v v p (p.command c) where
  room := rfl
  scale := rfl
  window := rfl
  palette := rfl
  holds hv := by
    have hafter := hv.effect (effect_operate p.session (.command c))
    rwa [View.after_of_ne hr hl] at hafter

theorem keeps_setSpeed (v : View) {p q : Player} {cycles : Except SpeedError Value}
    {said : List Message} (h : p.setSpeed cycles = .ok (q, said)) : Keeps v v p q := by
  unfold setSpeed at h
  split at h
  · cases h
  · cases h
    exact ⟨rfl, rfl, rfl, rfl, id⟩

theorem keeps_keyDown (v : View) {p q : Player} {key : String} {said : List Message}
    (h : p.keyDown key = .ok (q, said)) : Keeps v (onEvent v (.down key)) p q := by
  unfold keyDown at h
  split at h
  case h_4 =>
    cases h
    refine ⟨rfl, rfl, rfl, rfl, fun _ => ?_⟩
    rw [onEvent, if_pos rfl]
    exact fun _ => screen_start p.session
  case h_7 hne _ _ =>
    rw [onEvent_of_ne (by simpa using hne)]
    split at h
    · cases h
      exact keeps_command v p _ (by simp [Operation.kind]) (by simp [Operation.kind])
    · cases h
      exact .refl v p
  case h_5 | h_6 =>
    rw [onEvent_of_ne (by decide)]
    exact keeps_setSpeed v h
  all_goals
    cases h
    rw [onEvent_of_ne (by decide)]
    exact ⟨rfl, rfl, rfl, rfl, id⟩

theorem keeps_handle (v : View) {p q : Player} {e : HostEvent} {said : List Message}
    (h : p.handle e = .ok (q, said)) : Keeps v (onEvent v e) p q := by
  cases e with
  | down key => exact keeps_keyDown v h
  | up key =>
    simp only [handle] at h
    rw [onEvent_of_ne (by simp)]
    split at h
    · cases h
      exact keeps_command v p _ (by simp [Operation.kind]) (by simp [Operation.kind])
    · cases h
      exact .refl v p
  | quit | other =>
    cases h
    exact ⟨rfl, rfl, rfl, rfl, id⟩

/-- The view after the events of a turn. -/
def onEvents (v : View) (events : List HostEvent) : View :=
  { v with restarted := v.restarted || events.contains (.down "F5") }

theorem onEvents_cons (v : View) (e : HostEvent) (rest : List HostEvent) :
    onEvents v (e :: rest) = onEvents (onEvent v e) rest := by
  by_cases h : e = .down "F5"
  · subst h
    simp [onEvents, onEvent]
  · rw [onEvent_of_ne h, onEvents, onEvents, List.contains_cons, beq_false_of_ne (Ne.symm h),
      Bool.false_or]

theorem keeps_handleAll (v : View) {p : Player} {events : List HostEvent}
    (h : (p.handleAll events).2.2 = none) :
    Keeps v (onEvents v events) p (p.handleAll events).1 := by
  induction events generalizing v p with
  | nil => simpa [onEvents, handleAll] using Keeps.refl v p
  | cons e rest ih =>
    rw [onEvents_cons]
    cases hone : p.handle e with
    | error failure =>
      simp only [handleAll, hone, reduceCtorEq] at h
    | ok done =>
      obtain ⟨mid, said⟩ := done
      simp only [handleAll, hone] at h ⊢
      exact (keeps_handle v hone).trans (ih _ h)

theorem keeps_cycles (v : View) (p : Player) (n : Nat) : Keeps v v p (p.cycles n).1 := by
  induction n generalizing p with
  | zero => exact .refl v p
  | succ n ih =>
    have hstep : Keeps v v p (p.command .step) :=
      keeps_command v p _ (by simp [Operation.kind]) (by simp [Operation.kind])
    unfold cycles
    cases hf : (p.session.perform .step).failure with
    | some f =>
      simp only [hf]
      exact hstep.trans ⟨rfl, rfl, rfl, rfl, id⟩
    | none =>
      simp only [hf]
      exact hstep.trans (ih _)

theorem keeps_work (v : View) {p q : Player} {said : List Message}
    (h : p.work = .ok (q, said)) : Keeps v v p q := by
  unfold work at h
  split at h
  · cases h
    exact .refl v p
  · split at h
    · cases h
    · rename_i n _
      have hq : (p.cycles n).1 = q := congrArg Prod.fst (Except.ok.inj h)
      exact hq ▸ keeps_cycles v p n

theorem keeps_measure (v : View) (p : Player) (now : Number) : Keeps v v p (p.measure now) := by
  unfold measure
  split
  · exact ⟨rfl, rfl, rfl, rfl, id⟩
  · split <;> exact ⟨rfl, rfl, rfl, rfl, id⟩

/-! ## Turns -/

/-- How a turn ends that ends without an error: nothing was to be shown, or the window shows
the screen as it is. -/
theorem present_spec {p : Player} {said : List Message}
    (h : (p.present said).2.failure = none) :
    ((p.present said).1 = p ∧ (p.present said).2.picture = none ∧
      p.session.wantsRedraw = false) ∨
    (∃ picture, (p.present said).1 = p.command .acknowledge ∧
      (p.present said).2.picture = some picture ∧ p.frame = .ok picture) := by
  by_cases hflag : (p.session.wantsRedraw || p.debugging) = true
  · right
    cases hframe : p.frame with
    | error e =>
      simp only [present, hflag, if_true, hframe, failed, reduceCtorEq] at h
    | ok picture =>
      cases hoverlay : (p.command .acknowledge).overlay with
      | error e =>
        simp only [present, hflag, if_true, hframe, hoverlay, failed, reduceCtorEq] at h
      | ok lines =>
        refine ⟨picture, ?_, ?_, rfl⟩ <;> simp only [present, hflag, if_true, hframe, hoverlay]
  · left
    rw [present, if_neg hflag]
    rw [Bool.or_eq_true, not_or, Bool.not_eq_true] at hflag
    exact ⟨rfl, rfl, hflag.1⟩

/-- A turn is its parts, one after the other. -/
theorem turn_spec (v : View) {p : Player} {now : Number} {events : List HostEvent}
    (h : (p.turn now events).2.failure = none) :
    ∃ q said, Keeps v (onEvents v events) p q ∧ p.turn now events = q.present said := by
  unfold turn at h ⊢
  have hkeeps := @keeps_handleAll v (p.measure now) events
  generalize (p.measure now).handleAll events = handled at h hkeeps ⊢
  obtain ⟨mid, said, failure⟩ := handled
  cases failure with
  | some e => cases h
  | none =>
    have hmid := (keeps_measure v p now).trans (hkeeps rfl)
    cases hwork : mid.work with
    | error e =>
      simp only [hwork] at h
      cases h
    | ok done =>
      obtain ⟨q, more⟩ := done
      exact ⟨q, said ++ more, hmid.trans (keeps_work _ hwork), by simp only [hwork]⟩

/-! ## The window -/

/-- A player with what its window shows. -/
structure Showing where
  player : Player
  /-- The picture that was painted last, if one was. -/
  picture : Option Picture := none
  /-- Whether the reset key was pressed since then. -/
  restarted : Bool := false
  /-- Whether a turn ended with an error. -/
  failed : Bool := false

namespace Showing

/-- A turn: a picture it paints is in the window from then on. -/
def turn (w : Showing) (now : Number) (events : List HostEvent) : Showing :=
  let done := w.player.turn now events
  { player := done.1
    picture := done.2.picture.or w.picture
    restarted := done.2.picture.isNone && (w.restarted || events.contains (.down "F5"))
    failed := w.failed || done.2.failure.isSome }

/-- Turns, each with its time and its events. -/
def turns (w : Showing) : List (Number × List HostEvent) → Showing
  | [] => w
  | (now, events) :: rest => (w.turn now events).turns rest

/-- The window shows this screen; nothing was painted yet if it is the one of the start. -/
def Shows (w : Showing) (screen : Screen) : Prop :=
  match w.picture with
  | some picture => w.player.pictureOf screen = .ok picture
  | none => screen = Screen.dark

/-- What holds between turns. -/
structure Settled (w : Showing) : Prop where
  quiet : w.player.session.wantsRedraw = false
  shows : ∃ seen, w.Shows seen ∧ View.Holds ⟨seen, w.restarted⟩ w.player.session

/-- A turn without an error leaves the window settled. -/
theorem Settled.turn {w : Showing} (hw : w.Settled) {now : Number} {events : List HostEvent}
    (h : (w.turn now events).failed = false) : (w.turn now events).Settled := by
  obtain ⟨hquiet, seen, hshows, hholds⟩ := hw
  have hok : (w.player.turn now events).2.failure = none := by
    simp only [Showing.turn, Bool.or_eq_false_iff, Option.isSome_eq_false_iff,
      Option.isNone_iff_eq_none] at h
    exact h.2
  obtain ⟨q, said, hkeeps, hturn⟩ := turn_spec ⟨seen, w.restarted⟩ hok
  rw [hturn] at hok
  rcases present_spec hok with ⟨hplayer, hpicture, hflag⟩ | ⟨picture, hplayer, hpicture, hframe⟩
  · -- nothing was painted: the window shows what it showed
    refine ⟨?_, seen, ?_, ?_⟩
    · simpa only [Showing.turn, hturn, hplayer] using hflag
    · simp only [Shows, Showing.turn, hturn, hplayer, hpicture, Option.none_or,
        hkeeps.pictureOf_eq]
      exact hshows
    · simp only [Showing.turn, hturn, hplayer, hpicture, Option.isNone_none, Bool.true_and]
      exact hkeeps.holds hholds
  · -- the window shows the screen as it is
    refine ⟨?_, q.session.machine.screen, ?_, ?_⟩
    · simp only [Showing.turn, hturn, hplayer]
      rfl
    · simp only [Shows, Showing.turn, hturn, hplayer, hpicture, Option.some_or]
      exact hframe
    · simp only [Showing.turn, hturn, hplayer, hpicture, Option.isNone_some, Bool.false_and]
      exact View.holds_of _

theorem failed_turns {w : Showing} (h : w.failed = true)
    (ts : List (Number × List HostEvent)) : (w.turns ts).failed = true := by
  induction ts generalizing w with
  | nil => exact h
  | cons t rest ih => exact ih (by simp [Showing.turn, h])

/-- Any number of turns leaves the window settled if none of them ended with an error. -/
theorem Settled.turns {w : Showing} (hw : w.Settled) {ts : List (Number × List HostEvent)}
    (h : (w.turns ts).failed = false) : (w.turns ts).Settled := by
  induction ts generalizing w with
  | nil => exact hw
  | cons t rest ih =>
    cases hone : (w.turn t.1 t.2).failed with
    | true =>
      rw [Showing.turns, failed_turns hone] at h
      cases h
    | false => exact ih (hw.turn hone) h

/-- A player that was started: its window, its colours and its rate are what the options say, and
its session is a fresh one that was given the program. -/
theorem player_of_start {setup : Setup} {name : String}
    {content : Except Storage.FileError Image} {now : Number} {said : List Message} {p : Player}
    (h : Player.start setup name content now = .ok (said, some p)) :
    ∃ window palette rate, windowOf setup.scale = .ok window ∧
      Palette.ofValue setup.scheme = .ok palette ∧
      rateOf setup.turnsPerSecond = .ok rate ∧
      p = { session := ((fresh (Random.Key.ofSeed 0) setup.mode false).perform
              (.loadFile name content)).session
            room := setup.room, window := window, scale := setup.scale, palette := palette
            cyclesPerTurn := setup.cyclesPerTurn, since := now, rate := rate } := by
  unfold Player.start at h
  cases hwindow : windowOf setup.scale with
  | error e =>
    rw [hwindow] at h
    cases h
  | ok window =>
    cases hpalette : Palette.ofValue setup.scheme with
    | error e =>
      rw [hwindow, hpalette] at h
      cases h
    | ok palette =>
      rw [hwindow, hpalette] at h
      dsimp only [Except.mapError, bind, Except.bind, pure, Except.pure] at h
      split at h
      · cases h
      · cases hrate : rateOf setup.turnsPerSecond with
        | error e =>
          rw [hrate] at h
          cases h
        | ok rate =>
          rw [hrate] at h
          cases h
          exact ⟨window, palette, rate, rfl, rfl, rfl, rfl⟩

/-- A player starts with a fresh session that was given the program. -/
theorem session_of_start {setup : Setup} {name : String}
    {content : Except Storage.FileError Image} {now : Number} {said : List Message} {p : Player}
    (h : Player.start setup name content now = .ok (said, some p)) :
    p.session = ((fresh (Random.Key.ofSeed 0) setup.mode false).perform
      (.loadFile name content)).session := by
  obtain ⟨_, _, _, -, -, -, rfl⟩ := player_of_start h
  rfl

/-- A program that is given to a session asks for nothing to be shown. -/
theorem wantsRedraw_of_image {s : Session} {o : Operation} {out : Outcome} (h : Effect s o out)
    (hk : o.kind = .image) : out.session.wantsRedraw = s.wantsRedraw := by
  cases h with
  | refused | loaded => rfl
  | counted c h | restarted h | keyed pad h | looked h =>
    rw [hk] at h
    cases h

/-- A player that was just started has a dark screen, and nothing in its window. -/
theorem settled_start {setup : Setup} {name : String}
    {content : Except Storage.FileError Image} {now : Number} {said : List Message} {p : Player}
    (h : Player.start setup name content now = .ok (said, some p)) :
    Settled { player := p } := by
  have hsession := session_of_start h
  have heffect := effect_operate (fresh (Random.Key.ofSeed 0) setup.mode false)
    (.command (.loadFile name content))
  have hholds := (View.holds_of _).effect heffect
  rw [View.after_of_ne (by simp [Operation.kind]) (by simp [Operation.kind])] at hholds
  refine ⟨?_, Screen.dark, rfl, ?_⟩
  · rw [hsession]
    exact wantsRedraw_of_image heffect rfl
  · rw [hsession]
    exact hholds

end Showing

/-- **The screen that was seen last is out of date only by a restart.**  Where a session asks
for nothing to be shown, its screen is the one the host saw last, or the one of the beginning;
or the session was restarted since, and the screen is dark.  A player, which paints only when
its session asks, asks for nothing between turns and has the screen in its window as it is,
unless the reset key was pressed since the last picture. -/
theorem shown_unless_restarted (s : Session) (history : List Operation) (setup : Setup)
    (name : String) (content : Except Storage.FileError Image) (now : Number)
    (ts : List (Number × List HostEvent)) :
    (let t := s.operateAll history
     let v := s.viewAll (View.of s) history
     t.wantsRedraw = false →
      (v.restarted = false → t.machine.screen = v.seen) ∧
      (v.restarted = true → t.machine.screen = Screen.dark)) ∧
    (∀ said p, start setup name content now = .ok (said, some p) →
      let w := Showing.turns { player := p } ts
      w.failed = false →
        w.player.session.wantsRedraw = false ∧
        (w.restarted = false → w.Shows w.player.session.machine.screen) ∧
        (w.restarted = true → w.player.session.machine.screen = Screen.dark)) := by
  refine ⟨?_, fun said p hstart => ?_⟩
  · intro t v hflag
    have hscreen : t.machine.screen = if v.restarted then Screen.dark else v.seen :=
      (View.holds_of s).operateAll history hflag
    refine ⟨fun hr => ?_, fun hr => ?_⟩
    · rw [hscreen, hr, if_neg Bool.false_ne_true]
    · rw [hscreen, hr, if_pos rfl]
  · intro w hok
    obtain ⟨hquiet, seen, hshows, hholds⟩ := (Showing.settled_start hstart).turns hok
    have hscreen : w.player.session.machine.screen = if w.restarted then Screen.dark else seen :=
      hholds hquiet
    refine ⟨hquiet, fun hr => ?_, fun hr => ?_⟩
    · rw [hr, if_neg Bool.false_ne_true] at hscreen
      rw [hscreen]
      exact hshows
    · rw [hscreen, hr, if_pos rfl]

/-- A host that looks at the glyph once it was drawn. -/
def glyphHistory : List Operation :=
  [.command .step, .command .acknowledge, .command (.press 3)]

/-- A player's first turns with the glyph: the second draws it. -/
def glyphTurns : List (Number × List HostEvent) := [(.whole 0, []), (.whole 0, [])]

/-- A turn that does nothing but to restart. -/
def glyphReset : Number × List HostEvent := (.whole 0, [.down "F5", .down "p"])

theorem shown_unless_restarted_glyph :
    (glyphAhead.operateAll glyphHistory).wantsRedraw = false ∧
    (glyphAhead.operateAll glyphHistory).machine.screen =
      (glyphAhead.viewAll (View.of glyphAhead) glyphHistory).seen ∧
    (∃ said p,
      start { scale := .int 1 } "glyph" (.ok glyphProgram) (.whole 0) = .ok (said, some p) ∧
      let w := Showing.turns { player := p } glyphTurns
      let w' := Showing.turns { player := p } (glyphTurns ++ [glyphReset])
      w.picture.isSome = true ∧ w.Shows w.player.session.machine.screen ∧
      w'.picture.isSome = true ∧ w'.player.session.machine.screen = Screen.dark) := by
  obtain ⟨hflag, hrestarted⟩ :
      (glyphAhead.operateAll glyphHistory).wantsRedraw = false ∧
      (glyphAhead.viewAll (View.of glyphAhead) glyphHistory).restarted = false := by
    decide +kernel
  have hlaw := shown_unless_restarted glyphAhead glyphHistory
    { scale := .int 1 } "glyph" (.ok glyphProgram) (.whole 0)
  obtain ⟨hseen, -⟩ := (hlaw glyphTurns).1 hflag
  refine ⟨hflag, hseen hrestarted, ?_⟩
  obtain ⟨said, p, hstart, hok, hstill, hpicture, hok', hstill', hpicture'⟩ :
      ∃ said p,
        start { scale := .int 1 } "glyph" (.ok glyphProgram) (.whole 0) = .ok (said, some p) ∧
        let w := Showing.turns { player := p } glyphTurns
        let w' := Showing.turns { player := p } (glyphTurns ++ [glyphReset])
        w.failed = false ∧ w.restarted = false ∧ w.picture.isSome = true ∧
        w'.failed = false ∧ w'.restarted = true ∧ w'.picture.isSome = true :=
    ⟨_, _, rfl, by decide +kernel⟩
  obtain ⟨-, hshown, -⟩ := (hlaw glyphTurns).2 said p hstart hok
  obtain ⟨-, -, hdark⟩ := (hlaw (glyphTurns ++ [glyphReset])).2 said p hstart hok'
  exact ⟨said, p, hstart, hpicture, hshown hstill, hpicture', hdark hstill'⟩

end Player

end ChipEight
