import ChipEight.Proofs.Operations

/-!
# What a host can do to a machine

A session (`Interpreter`) hands its machine to many commands, some of which fail halfway through
reading what they were given.  For the machine there are only five things that can happen, and a
proof about every order of commands has to look at no more than these.

* `Session.Reachable` — the sessions a host can arrive at, by any commands in any order,
  whether they fail or not.
* `Session.Handling` — the five things: some cycles, a restart, an image in memory, other
  keys held, and a look at the screen.
* `Session.handling_operate` — every operation is one of them; one that is refused is no
  cycles at all, and one that reports a fault is the cycles that led to it.
-/

namespace ChipEight

namespace Session

/-! ## Reachable sessions -/

/-- The sessions a host can arrive at.  A session that is opened with a program is a fresh one
that loads it. -/
inductive Reachable : Session → Prop
  | fresh (seed : Random.Key) (mode : Mode) (traced : Bool) : Reachable (fresh seed mode traced)
  | perform {s : Session} (h : Reachable s) (c : Command) : Reachable (s.perform c).session
  /-- Cycles whose number is given as a host value. -/
  | runFor {s : Session} (h : Reachable s) (cycles showBar : Value) :
      Reachable (s.runFor cycles showBar).session

theorem Reachable.performAll {s : Session} (h : s.Reachable) (cs : List Command) :
    (s.performAll cs).Reachable := by
  induction cs generalizing s with
  | nil => exact h
  | cons c rest ih => exact ih (h.perform c)

/-! ## The five things -/

/-- What can happen to the machine of a session. -/
inductive Handling (s : Session) : Machine → Prop
  | cycles (n : Nat) : Handling s (s.machine.run n)
  | restart : Handling s s.start
  | image (image : Image) : Handling s (s.machine.withImage image)
  | keys (pad : Keypad) : Handling s { s.machine with keypad := pad }
  | look : Handling s s.machine.acknowledge

theorem Effect.handling {s : Session} {o : Operation} {out : Outcome} (h : Effect s o out) :
    Handling s out.session.machine := by
  cases h with
  | refused => exact .cycles 0
  | counted c =>
    rw [session_counted]
    exact .cycles _
  | restarted => exact .restart
  | loaded => exact .image _
  | keyed pad => exact .keys pad
  | looked => exact .look

/-- **An operation does one of the five things to the machine**, also if it is refused. -/
theorem handling_operate (s : Session) (o : Operation) :
    Handling s (s.operate o).session.machine :=
  (effect_operate s o).handling

end Session

end ChipEight
