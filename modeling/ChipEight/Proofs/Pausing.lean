import ChipEight.Proofs.Playing

/-!
# Pausing

The turns of a paused player (the loop of `run_emulator`) go on.  They take keys, let the clock run
and show what asks to be shown, and do no cycles.  So nothing but the clock moves in a pause without
keys, and the clock tells the display of the debug mode how fast the turns come and nothing else.  A
player that is paused and resumed goes on exactly where it was, however long the pause was.

* `Player.playOn`, `Player.after` — turns one after the other, with the players they leave.
* `Player.withClock` — a player with another clock, and `Player.turn_alike` — its turns differ in
  nothing but the clock.
* `Player.Steady` — what holds between the turns of a running player.
* `Player.turn_idle` — a turn of a pause leaves everything but the clock.
* `Player.resumes_where_paused` — the turns after a pause are those there would have been without.
-/

namespace ChipEight.Player

/-! ## Turns one after the other -/

/-- Plays turns like `play`, with the player that each of them leaves. -/
def playOn (p : Player) : List (Number × List HostEvent) → List (Player × Turn)
  | [] => []
  | (now, events) :: rest =>
    if p.running then p.turn now events :: (p.turn now events).1.playOn rest else []

/-- The player that turns leave in the end. -/
def after (p : Player) : List (Number × List HostEvent) → Player
  | [] => p
  | (now, events) :: rest => if p.running then (p.turn now events).1.after rest else p

section

variable {p : Player} (ts more : List (Number × List HostEvent))

theorem play_eq_map (p : Player) : p.play ts = (p.playOn ts).map Prod.snd := by
  induction ts generalizing p with
  | nil => rfl
  | cons t rest ih =>
    rw [play, playOn]
    split
    · rw [List.map_cons, ← ih]
    · rfl

theorem playOn_of_stopped (h : p.running = false) : p.playOn ts = [] := by
  cases ts with
  | nil => rfl
  | cons t rest => rw [playOn, if_neg (by simp [h])]

theorem playOn_append (p : Player) :
    p.playOn (ts ++ more) = p.playOn ts ++ (p.after ts).playOn more := by
  induction ts generalizing p with
  | nil => rfl
  | cons t rest ih =>
    rw [List.cons_append, playOn, playOn, after]
    by_cases h : p.running = true
    · rw [if_pos h, if_pos h, if_pos h, ih, List.cons_append]
    · rw [if_neg h, if_neg h, if_neg h, List.nil_append]
      exact (playOn_of_stopped more (by simpa using h)).symm

/-- A player that was never stopped played all its turns. -/
theorem length_playOn (h : (p.after ts).running = true) : (p.playOn ts).length = ts.length := by
  induction ts generalizing p with
  | nil => rfl
  | cons t rest ih =>
    rw [after] at h
    by_cases hr : p.running = true
    · rw [if_pos hr] at h
      rw [playOn, if_pos hr, List.length_cons, List.length_cons, ih h]
    · rw [if_neg hr] at h
      exact absurd h hr

/-- The turns that come after others. -/
theorem drop_playOn (h : (p.after ts).running = true) :
    (p.playOn (ts ++ more)).drop ts.length = (p.after ts).playOn more := by
  rw [playOn_append, ← length_playOn ts h]
  exact List.drop_left ..

theorem after_of_stopped (h : p.running = false) : p.after ts = p := by
  cases ts with
  | nil => rfl
  | cons t rest => rw [after, if_neg (by simp [h])]

theorem after_append (p : Player) : p.after (ts ++ more) = (p.after ts).after more := by
  induction ts generalizing p with
  | nil => rfl
  | cons t rest ih =>
    rw [List.cons_append, after, after]
    by_cases h : p.running = true
    · rw [if_pos h, if_pos h, ih]
    · rw [if_neg h, if_neg h]
      exact (after_of_stopped more (by simpa using h)).symm

end

/-! ## The clock -/

/-- The player with the clock of another. -/
def withClock (p c : Player) : Player :=
  { p with turns := c.turns, since := c.since, rate := c.rate }

/-- The player without its clock. -/
def untimed (p : Player) : Player :=
  { p with turns := 0, since := .whole 0, rate := .whole 0 }

/-- A turn without its clock: of the lines of the debug display the one with the rate is left
out. -/
def clockless (done : Player × Turn) : Player × Turn :=
  (done.1.untimed,
    { done.2 with overlay := done.2.overlay.map fun lines => lines.eraseIdx 3 })

/-- The rate can be shown. -/
def Showable (p : Player) : Prop := ∃ x, p.rate.toFloat = .ok x

section

variable {p q c : Player}

/-- Players that differ in the clock at most. -/
theorem eq_withClock (h : q.untimed = p.untimed) : q = p.withClock q := by
  cases p
  cases q
  simp only [untimed, Player.mk.injEq] at h
  simp [withClock, h]

theorem running_eq_of_untimed (h : q.untimed = p.untimed) : q.running = p.running := by
  show q.untimed.running = p.untimed.running
  rw [h]

theorem paused_eq_of_untimed (h : q.untimed = p.untimed) : q.paused = p.paused := by
  show q.untimed.paused = p.untimed.paused
  rw [h]

theorem measure_eq (p : Player) (now : Number) : p.measure now = p.withClock (p.measure now) := by
  unfold measure
  split
  · rfl
  · split <;> rfl

theorem untimed_measure (p : Player) (now : Number) : (p.measure now).untimed = p.untimed := by
  rw [measure_eq]
  rfl

/-- A rate that was measured can be shown. -/
theorem Showable.measure (h : p.Showable) (now : Number) : (p.measure now).Showable := by
  unfold Player.measure
  split
  · exact h
  · split
    · exact ⟨_, rfl⟩
    · exact h

/-- Takes the clock of another player over from what an event, or a turn's cycles, left. -/
def overClock (c : Player) (done : Player × List Message) : Player × List Message :=
  (done.1.withClock c, done.2)

theorem setSpeed_withClock (p c : Player) (cycles : Except SpeedError Value) :
    (p.withClock c).setSpeed cycles = (p.setSpeed cycles).map (overClock c) := by
  cases cycles <;> rfl

theorem keyDown_withClock (p c : Player) (key : String) :
    (p.withClock c).keyDown key = (p.keyDown key).map (overClock c) := by
  unfold keyDown
  split
  -- the two keys that change the speed, and the keys of the keypad
  case h_5 => exact setSpeed_withClock p c _
  case h_6 => exact setSpeed_withClock p c _
  case h_7 => cases keyLayout.lookup key <;> rfl
  all_goals rfl

theorem handle_withClock (p c : Player) (e : HostEvent) :
    (p.withClock c).handle e = (p.handle e).map (overClock c) := by
  cases e with
  | down key => exact keyDown_withClock p c key
  | up key =>
    simp only [handle]
    cases keyLayout.lookup key <;> rfl
  | quit | other => rfl

theorem handleAll_withClock (p c : Player) (events : List HostEvent) :
    (p.withClock c).handleAll events =
      ((p.handleAll events).1.withClock c, (p.handleAll events).2) := by
  induction events generalizing p with
  | nil => rfl
  | cons e rest ih =>
    rw [handleAll, handleAll, handle_withClock]
    cases p.handle e with
    | error failure => rfl
    | ok done => simp only [Except.map, overClock, ih]

theorem cycles_withClock (p c : Player) (n : Nat) :
    (p.withClock c).cycles n = overClock c (p.cycles n) := by
  induction n generalizing p with
  | zero => rfl
  | succ n ih =>
    have hsession : (p.withClock c).session = p.session := rfl
    unfold cycles
    rw [hsession]
    -- what the cycle does has no part in this
    generalize p.session.perform .step = done
    cases hf : done.failure with
    | some f =>
      simp only [hf]
      rfl
    | none =>
      simp only [hf]
      have hrest : { p.withClock c with session := done.session }.cycles n =
          overClock c ({ p with session := done.session }.cycles n) :=
        ih { p with session := done.session }
      rw [hrest]
      rfl

theorem work_withClock (p c : Player) :
    (p.withClock c).work = p.work.map (overClock c) := by
  have hspeed : (p.withClock c).cyclesPerTurn = p.cyclesPerTurn := rfl
  have hrest : ((p.withClock c).paused || (p.withClock c).session.halted) =
      (p.paused || p.session.halted) := rfl
  unfold work
  rw [hspeed, hrest]
  split
  · rfl
  · cases Speed.cycles p.cyclesPerTurn with
    | error e => rfl
    | ok n => simp only [cycles_withClock, Except.map]

end

/-! ## Turns by different clocks -/

section

variable {p q c : Player}

/-- The events leave the clock alone, since they take any clock over as it is. -/
theorem rate_handleAll (p : Player) (events : List HostEvent) :
    (p.handleAll events).1.rate = p.rate := by
  have hself : p.handleAll events = ((p.handleAll events).1.withClock p, (p.handleAll events).2) :=
    handleAll_withClock p p events
  rw [hself]
  rfl

/-- So do the cycles. -/
theorem rate_work {said : List Message} (h : p.work = .ok (q, said)) : q.rate = p.rate := by
  have hself : p.work = p.work.map (overClock p) := work_withClock p p
  rw [h] at hself
  have hq : (q, said) = (q.withClock p, said) := Except.ok.inj hself
  have hplayer : q = q.withClock p := congrArg Prod.fst hq
  rw [hplayer]
  rfl

theorem overlay_eq (h : p.Showable) :
    ∃ rate, p.overlay = .ok (if p.debugging then
      some (overlayLines p.session p.cyclesPerTurn.shown rate p.paused) else none) := by
  obtain ⟨x, hx⟩ := h
  refine ⟨Text.fixed 1 x, ?_⟩
  unfold overlay
  split
  · rw [Number.fixed, hx]
    rfl
  · rfl

/-- Both show the same, but for the line about the clock. -/
theorem present_withClock (said : List Message) (hp : p.Showable) (hc : c.Showable) :
    clockless ((p.withClock c).present said) = clockless (p.present said) := by
  have hflag : ((p.withClock c).session.wantsRedraw || (p.withClock c).debugging) =
      (p.session.wantsRedraw || p.debugging) := rfl
  have hdebug : (p.command .acknowledge).debugging = p.debugging := rfl
  have hdebug' : ((p.withClock c).command .acknowledge).debugging = p.debugging := rfl
  have hframe : (p.withClock c).frame = p.frame := rfl
  unfold present
  rw [hflag, hframe]
  split
  · cases p.frame with
    | error e => rfl
    | ok picture =>
      have hp' : (p.command .acknowledge).Showable := hp
      have hc' : ((p.withClock c).command .acknowledge).Showable := hc
      obtain ⟨rate, hrate⟩ := overlay_eq hp'
      obtain ⟨rate', hrate'⟩ := overlay_eq hc'
      simp only [hrate, hrate', hdebug, hdebug']
      cases p.debugging <;> rfl
  · rfl

theorem rate_present (p : Player) (said : List Message) : (p.present said).1.rate = p.rate := by
  unfold present
  split
  · split
    · rfl
    · dsimp only
      split <;> rfl
  · rfl

/-- How a turn ends: with an error, or by showing what is to be shown. -/
theorem turn_cases (h : p.Showable) (now : Number) (events : List HostEvent) :
    ∃ (q : Player) (said : List Message), q.Showable ∧
      (p.turn now events = q.present said ∨ ∃ e, p.turn now events = q.failed said e) := by
  have hshown : ((p.measure now).handleAll events).1.Showable := by
    rw [Showable, rate_handleAll]
    exact h.measure now
  unfold turn
  generalize (p.measure now).handleAll events = handled at hshown ⊢
  obtain ⟨mid, said, failure⟩ := handled
  cases failure with
  | some e => exact ⟨mid, said, hshown, Or.inr ⟨e, rfl⟩⟩
  | none =>
    dsimp only
    cases hwork : mid.work with
    | error e => exact ⟨mid, said, hshown, Or.inr ⟨e, rfl⟩⟩
    | ok done =>
      obtain ⟨last, more⟩ := done
      refine ⟨last, said ++ more, ?_, Or.inl rfl⟩
      rw [Showable, rate_work hwork]
      exact hshown

/-- The rate can still be shown after a turn. -/
theorem Showable.turn (h : p.Showable) (now : Number) (events : List HostEvent) :
    (p.turn now events).1.Showable := by
  obtain ⟨q, said, hq, hpresent | ⟨e, hfailed⟩⟩ := turn_cases h now events
  · rw [hpresent, Showable, rate_present]
    exact hq
  · rw [hfailed]
    exact hq

/-- **A turn by another clock leaves and shows the same**, but for the clock. -/
theorem turn_alike (h : q.untimed = p.untimed) (hp : p.Showable) (hq : q.Showable)
    (now now' : Number) (events : List HostEvent) :
    clockless (q.turn now' events) = clockless (p.turn now events) := by
  obtain ⟨c, rfl⟩ : ∃ c, q = p.withClock c := ⟨q, eq_withClock h⟩
  have hmeasured : ((p.withClock c).measure now').untimed = (p.measure now).untimed := by
    rw [untimed_measure, untimed_measure, h]
  have hshown : ((p.measure now).handleAll events).1.Showable := by
    rw [Showable, rate_handleAll]
    exact hp.measure now
  unfold turn
  rw [eq_withClock hmeasured, handleAll_withClock]
  generalize (p.measure now).handleAll events = handled at hshown ⊢
  obtain ⟨mid, said, failure⟩ := handled
  cases failure with
  | some e => rfl
  | none =>
    simp only [work_withClock]
    cases hwork : mid.work with
    | error e => rfl
    | ok done =>
      obtain ⟨last, more⟩ := done
      apply present_withClock
      · rw [Showable, rate_work hwork]
        exact hshown
      · exact hq.measure now'

/-- So do any number of turns that bring the same events, whenever they come. -/
theorem playOn_alike (h : q.untimed = p.untimed) (hp : p.Showable) (hq : q.Showable)
    {ts ts' : List (Number × List HostEvent)} (hevents : ts'.map Prod.snd = ts.map Prod.snd) :
    (q.playOn ts').map clockless = (p.playOn ts).map clockless ∧
      (q.after ts').untimed = (p.after ts).untimed := by
  induction ts generalizing p q ts' with
  | nil =>
    rw [List.map_nil, List.map_eq_nil_iff] at hevents
    subst hevents
    exact ⟨rfl, h⟩
  | cons t rest ih =>
    obtain ⟨now, events⟩ := t
    obtain ⟨⟨now', events'⟩, rest', rfl, hhead, hrest⟩ := List.map_eq_cons_iff.1 hevents
    obtain rfl : events' = events := hhead
    rw [playOn, playOn, after, after, running_eq_of_untimed h]
    split
    · have hturn := turn_alike h hp hq now now' events'
      obtain ⟨hplay, hafter⟩ := ih (congrArg Prod.fst hturn) (hp.turn now events')
        (hq.turn now' events') hrest
      rw [List.map_cons, List.map_cons, hturn, hplay]
      exact ⟨rfl, hafter⟩
    · exact ⟨rfl, h⟩

end

/-! ## Between the turns of a running player -/

/-- What holds between turns: nothing waits to be shown, the window can be painted whenever the
debug display asks for it, and the rate can be shown. -/
structure Steady (p : Player) : Prop where
  quiet : p.session.wantsRedraw = false
  paints : p.debugging = true → ∃ picture, p.frame = .ok picture
  showable : p.Showable

section

variable {p q : Player}

/-- A look at a screen that does not wait to be shown changes nothing. -/
theorem command_acknowledge_of_quiet (h : p.session.wantsRedraw = false) :
    p.command .acknowledge = p := by
  show { p with session :=
    p.session.withMachine { p.session.machine with redraw := false } } = p
  rw [← h]
  rfl

theorem Steady.of_untimed (h : q.untimed = p.untimed) (hp : p.Steady) (hq : q.Showable) :
    q.Steady := by
  obtain ⟨c, rfl⟩ : ∃ c, q = p.withClock c := ⟨q, eq_withClock h⟩
  exact ⟨hp.quiet, hp.paints, hq⟩

/-- To present a steady player leaves it as it is. -/
theorem Steady.present_eq (h : p.Steady) (said : List Message) : (p.present said).1 = p := by
  have hseen := command_acknowledge_of_quiet h.quiet
  by_cases hd : p.debugging = true
  · obtain ⟨picture, hframe⟩ := h.paints hd
    obtain ⟨rate, hrate⟩ := overlay_eq h.showable
    simp only [present, hd, Bool.or_true, if_true, hframe, hseen, hrate]
  · rw [present, h.quiet, Bool.false_or, if_neg hd]

/-- A player that was presented and not stopped is steady. -/
theorem steady_present (hp : p.Showable) {said : List Message}
    (h : (p.present said).1.running = true) : (p.present said).1.Steady := by
  by_cases hflag : (p.session.wantsRedraw || p.debugging) = true
  · cases hframe : p.frame with
    | error e =>
      simp only [present, hflag, if_true, hframe, failed, Bool.false_eq_true] at h
    | ok picture =>
      have hshown : (p.command .acknowledge).Showable := hp
      obtain ⟨rate, hrate⟩ := overlay_eq hshown
      simp only [present, hflag, if_true, hframe, hrate]
      exact ⟨rfl, fun _ => ⟨picture, hframe⟩, hshown⟩
  · rw [present, if_neg hflag]
    rw [Bool.or_eq_true, not_or, Bool.not_eq_true] at hflag
    exact ⟨hflag.1, fun hd => absurd hd hflag.2, hp⟩

/-- A turn that does not stop the player leaves it steady. -/
theorem steady_turn (hp : p.Showable) {now : Number} {events : List HostEvent}
    (h : (p.turn now events).1.running = true) : (p.turn now events).1.Steady := by
  obtain ⟨q, said, hq, hpresent | ⟨e, hfailed⟩⟩ := turn_cases hp now events
  · rw [hpresent] at h ⊢
    exact steady_present hq h
  · rw [hfailed] at h
    cases h

theorem running_of_after {ts : List (Number × List HostEvent)}
    (h : (p.after ts).running = true) : p.running = true := by
  cases ts with
  | nil => exact h
  | cons t rest =>
    rw [after] at h
    split at h
    · assumption
    · exact h

/-- A steady player that turns did not stop is steady after them. -/
theorem Steady.after (hp : p.Steady) {ts : List (Number × List HostEvent)}
    (h : (p.after ts).running = true) : (p.after ts).Steady := by
  induction ts generalizing p with
  | nil => exact hp
  | cons t rest ih =>
    have hr := running_of_after h
    rw [Player.after, if_pos hr] at h ⊢
    have hturn := running_of_after h
    exact ih (steady_turn hp.showable hturn) h

/-- A player that was just started is steady: nothing was drawn yet, and a rate that cannot be shown
was refused. -/
theorem steady_start {setup : Setup} {name : String} {content : Except Storage.FileError Image}
    {now : Number} {said : List Message}
    (h : start setup name content now = .ok (said, some p)) : p.Steady := by
  have hquiet := (Showing.settled_start h).quiet
  obtain ⟨window, palette, rate, -, -, hrate, rfl⟩ := Showing.player_of_start h
  refine ⟨hquiet, ?_, ?_⟩
  · intro hdebug
    cases hdebug
  · unfold rateOf at hrate
    split at hrate
    · cases hrate
    · split at hrate
      · cases hrate
      · rename_i x _ y hy
        cases hrate
        exact ⟨y, hy⟩

/-- When a player was started is a matter of its clock. -/
theorem untimed_start {setup : Setup} {name : String}
    {content : Except Storage.FileError Image} {now now' : Number} {said said' : List Message}
    (h : start setup name content now = .ok (said, some p))
    (h' : start setup name content now' = .ok (said', some q)) : q.untimed = p.untimed := by
  obtain ⟨window, palette, rate, hwindow, hpalette, -, rfl⟩ := Showing.player_of_start h
  obtain ⟨window', palette', rate', hwindow', hpalette', -, rfl⟩ := Showing.player_of_start h'
  obtain rfl : window = window' := Except.ok.inj (hwindow.symm.trans hwindow')
  obtain rfl : palette = palette' := Except.ok.inj (hpalette.symm.trans hpalette')
  rfl

end

/-! ## Pausing and resuming -/

/-- The player after the pause key. -/
def toggled (p : Player) : Player := { p with paused := !p.paused }

section

variable {p : Player}

@[simp] theorem toggled_toggled (p : Player) : p.toggled.toggled = p := by
  simp [toggled]

theorem untimed_toggled (p : Player) : p.toggled.untimed = p.untimed.toggled := rfl

theorem measure_toggled (p : Player) (now : Number) :
    p.toggled.measure now = (p.measure now).toggled := by
  unfold measure
  have hsince : p.toggled.since = p.since := rfl
  rw [hsince]
  split
  · rfl
  · split <;> rfl

theorem handleAll_pause (p : Player) (now : Number) (events : List HostEvent) :
    (p.measure now).handleAll (.down "p" :: events) =
      (p.toggled.measure now).handleAll events := by
  rw [measure_toggled]
  rfl

/-- A turn that begins with the pause key is a turn of the player it pauses or resumes. -/
theorem turn_pause (p : Player) (now : Number) (events : List HostEvent) :
    p.turn now (.down "p" :: events) = p.toggled.turn now events := by
  unfold turn
  rw [handleAll_pause]

/-- **A turn of a pause leaves everything but the clock.** -/
theorem turn_idle (h : p.Steady) (hpaused : p.paused = true) (now : Number) :
    (p.turn now []).1 = p.measure now := by
  have hsame := untimed_measure p now
  have hsteady : (p.measure now).Steady := h.of_untimed hsame (h.showable.measure now)
  have hstill : (p.measure now).paused = true := (paused_eq_of_untimed hsame).trans hpaused
  have hwork : (p.measure now).work = .ok (p.measure now, []) := by
    rw [work, hstill, Bool.true_or, if_pos rfl]
  simp only [turn, handleAll, hwork]
  exact hsteady.present_eq _

/-- All the turns of a pause leave everything but the clock. -/
theorem after_idle (h : p.Steady) (hpaused : p.paused = true) (hrunning : p.running = true)
    {ts : List (Number × List HostEvent)} (hidle : ∀ t ∈ ts, t.2 = []) :
    (p.after ts).untimed = p.untimed ∧ (p.after ts).Showable := by
  induction ts generalizing p with
  | nil => exact ⟨rfl, h.showable⟩
  | cons t rest ih =>
    obtain ⟨now, events⟩ := t
    obtain rfl : events = [] := hidle _ (List.mem_cons_self ..)
    have hrest : ∀ t ∈ rest, t.2 = [] := fun t ht => hidle t (List.mem_cons_of_mem _ ht)
    have hsame := untimed_measure p now
    rw [after, if_pos hrunning, turn_idle h hpaused now, ← hsame]
    apply ih (h.of_untimed hsame (h.showable.measure now)) _ _ hrest
    · exact (paused_eq_of_untimed hsame).trans hpaused
    · exact (running_eq_of_untimed hsame).trans hrunning

theorem playOn_pause (p : Player) (now : Number) (events : List HostEvent)
    (rest : List (Number × List HostEvent)) :
    p.playOn ((now, .down "p" :: events) :: rest) =
      p.toggled.playOn ((now, events) :: rest) := by
  have hrunning : p.toggled.running = p.running := rfl
  rw [playOn, playOn, hrunning, turn_pause]

/-- The pause key and turns without events pause the player and change nothing but its clock. -/
theorem after_pause (h : p.Steady) (hpaused : p.paused = false) (hrunning : p.running = true)
    (now : Number) {idle : List (Number × List HostEvent)} (hidle : ∀ t ∈ idle, t.2 = []) :
    (p.after ((now, [.down "p"]) :: idle)).untimed = p.untimed.toggled ∧
      (p.after ((now, [.down "p"]) :: idle)).Showable := by
  have hafter : p.after ((now, [.down "p"]) :: idle) = p.toggled.after ((now, []) :: idle) := by
    have htoggled : p.toggled.running = true := hrunning
    rw [after, after, if_pos hrunning, turn_pause, if_pos htoggled]
  have hsteady : p.toggled.Steady := ⟨h.quiet, h.paints, h.showable⟩
  have hstill : p.toggled.paused = true := by rw [toggled, hpaused]; rfl
  rw [hafter, ← untimed_toggled]
  apply after_idle hsteady hstill hrunning
  rintro t (_ | ⟨_, ht⟩)
  · rfl
  · exact hidle t ht

/-- What comes after a pause is what would have come without it. -/
theorem playOn_after_pause {q : Player} (h : q.untimed = p.untimed) (hp : p.Steady) (hq : q.Steady)
    (hrunning : p.running = true) (hpaused : p.paused = false) (now : Number)
    {idle : List (Number × List HostEvent)} (hidle : ∀ t ∈ idle, t.2 = []) (t t' : Number)
    (events : List HostEvent) {ts ts' : List (Number × List HostEvent)}
    (hevents : ts'.map Prod.snd = ts.map Prod.snd) :
    let r := q.after ((now, [.down "p"]) :: idle)
    r.running = true ∧
      (r.playOn ((t', .down "p" :: events) :: ts')).map clockless =
        (p.playOn ((t, events) :: ts)).map clockless := by
  intro r
  have hrunning' : q.running = true := (running_eq_of_untimed h).trans hrunning
  have hpaused' : q.paused = false := (paused_eq_of_untimed h).trans hpaused
  obtain ⟨hr, hshowable⟩ : r.untimed = q.untimed.toggled ∧ r.Showable :=
    after_pause hq hpaused' hrunning' now hidle
  have hresumed : r.toggled.untimed = p.untimed := by
    rw [untimed_toggled, hr, toggled_toggled, h]
  refine ⟨?_, ?_⟩
  · exact (running_eq_of_untimed (p := q.toggled) hr).trans hrunning'
  · have hlater : ((t', events) :: ts').map Prod.snd = ((t, events) :: ts).map Prod.snd := by
      rw [List.map_cons, List.map_cons, hevents]
    rw [playOn_pause]
    exact (playOn_alike hresumed hp.showable hshowable hlater).1

end

/-- **A player resumes where it was paused.**  It was started twice with the same options and the
same file, and given the same events up to a turn that left it running and not paused.  Once it goes
on with more events at once; once it is paused first, by a turn that brings the pause key alone,
stays so for any number of turns that bring nothing, and gets the pause key again with the first
events that are left.  Then the turns after the pause leave and show what the turns do that there
are without it, whenever all these turns came: the same session with the same machine and the same
count of cycles, the same cycles per turn, the same picture and the same messages.  In particular
playing ends with the same turn, or not at all in both. -/
theorem resumes_where_paused {setup : Setup} {name : String}
    {content : Except Storage.FileError Image} {now now' : Number} {said said' : List Message}
    {p p' : Player} (hstart : start setup name content now = .ok (said, some p))
    (hstart' : start setup name content now' = .ok (said', some p'))
    {before rest : List (List HostEvent)} {first : List HostEvent} {k : Nat}
    {ts ts' : List (Number × List HostEvent)}
    (hts : ts.map Prod.snd = before ++ first :: rest)
    (hts' : ts'.map Prod.snd =
      before ++ [.down "p"] :: List.replicate k [] ++ (.down "p" :: first) :: rest)
    (hrunning : (p.after (ts.take before.length)).running = true)
    (hpaused : (p.after (ts.take before.length)).paused = false) :
    ((p'.playOn ts').drop (before.length + (k + 1))).map clockless =
      ((p.playOn ts).drop before.length).map clockless := by
  obtain ⟨A, B, rfl, hA, hB⟩ := List.map_eq_append_iff.1 hts
  obtain ⟨⟨t, events⟩, R, rfl, hfirst, hR⟩ := List.map_eq_cons_iff.1 hB
  obtain ⟨C, B', rfl, hC, hB'⟩ := List.map_eq_append_iff.1 hts'
  obtain ⟨A', P, rfl, hA', hP⟩ := List.map_eq_append_iff.1 hC
  obtain ⟨⟨tp, key⟩, idle, rfl, hkey, hidle⟩ := List.map_eq_cons_iff.1 hP
  obtain ⟨⟨t', events'⟩, R', rfl, hfirst', hR'⟩ := List.map_eq_cons_iff.1 hB'
  obtain rfl : events = first := hfirst
  obtain rfl : events' = .down "p" :: events := hfirst'
  obtain rfl : key = [.down "p"] := hkey
  -- both players stand at the same point when the pause key is pressed
  have hlength : before.length = A.length := by rw [← hA, List.length_map]
  have hlength' : before.length = A'.length := by rw [← hA', List.length_map]
  rw [hlength, List.take_left] at hrunning hpaused
  have hp := steady_start hstart
  have hp' := steady_start hstart'
  obtain ⟨-, halike⟩ := playOn_alike (untimed_start hstart hstart') hp.showable hp'.showable
    (hA'.trans hA.symm)
  have hrunning' : (p'.after A').running = true :=
    (running_eq_of_untimed halike).trans hrunning
  have hnone : ∀ t ∈ idle, t.2 = [] := by
    intro t ht
    have hmem := List.mem_map_of_mem (f := Prod.snd) ht
    rw [hidle] at hmem
    exact List.eq_of_mem_replicate hmem
  obtain ⟨hresumed, hplay⟩ := playOn_after_pause halike (hp.after hrunning)
    (hp'.after hrunning') hrunning hpaused tp hnone t t' events (hR'.trans hR.symm)
  -- the turns that are compared come after so many others
  have hcount : before.length + (k + 1) = (A' ++ (tp, [.down "p"]) :: idle).length := by
    have hk : idle.length = k := by
      have hmap := congrArg List.length hidle
      rwa [List.length_map, List.length_replicate] at hmap
    rw [List.length_append, List.length_cons, hk, hlength']
  rw [← after_append] at hresumed hplay
  rw [hcount, drop_playOn _ _ hresumed, hlength, drop_playOn _ _ hrunning, hplay]

/-- A player's turns with the glyph: two cycles a turn from the second on, which stop at the end of
the program, a restart, and another end. -/
def glyphScript : List (Number × List HostEvent) :=
  [(.whole 0, []), (.whole 0, [.down "EQUALS"]), (.whole 1, [.down "F5"]), (.whole 1, [.quit]),
    (.whole 1, [])]

/-- The same turns with a pause after the first. -/
def glyphPause : List (Number × List HostEvent) :=
  [(.whole 0, []), (.whole 0, [.down "p"]), (.whole 7, []), (.whole 9, []),
    (.whole 9, [.down "p", .down "EQUALS"]), (.whole 9, [.down "F5"]), (.whole 9, [.quit]),
    (.whole 9, [])]

theorem resumes_where_paused_glyph :
    ∃ said p,
      start { scale := .int 1 } "glyph" (.ok Session.glyphProgram) (.whole 0) = .ok (said, some p) ∧
      ((p.playOn glyphPause).drop 4).map clockless =
        ((p.playOn glyphScript).drop 1).map clockless ∧
      ((p.playOn glyphPause).drop 4).map (fun d => d.1.session.cycles) =
        [.whole 3, .whole 2, .whole 3] := by
  obtain ⟨said, p, hstart, hrunning, hpaused, hcycles⟩ :
      ∃ said p,
        start { scale := .int 1 } "glyph" (.ok Session.glyphProgram) (.whole 0) =
          .ok (said, some p) ∧
        (p.after (glyphScript.take 1)).running = true ∧
        (p.after (glyphScript.take 1)).paused = false ∧
        ((p.playOn glyphScript).drop 1).map (fun d => d.1.session.cycles) =
          [.whole 3, .whole 2, .whole 3] :=
    ⟨_, _, rfl, by decide +kernel⟩
  have hplay : ((p.playOn glyphPause).drop 4).map clockless =
      ((p.playOn glyphScript).drop 1).map clockless :=
    @resumes_where_paused _ _ _ _ _ _ _ p p hstart hstart [[]] [[.down "F5"], [.quit], []]
      [.down "EQUALS"] 2 glyphScript glyphPause rfl rfl hrunning hpaused
  have hkept : ∀ turns : List (Player × Turn),
      turns.map (fun d => d.1.session.cycles) =
        (turns.map clockless).map (fun d => d.1.session.cycles) := by
    intro turns
    rw [List.map_map]
    rfl
  refine ⟨said, p, hstart, hplay, ?_⟩
  rw [hkept, hplay, ← hkept, hcycles]

end ChipEight.Player
