import ChipEight.Proofs.Operations

/-!
# What a restart goes back to

A session keeps the key it was opened with, its mode and the program it took last; a restart
(`reset`) builds the machine anew from these three.  So nothing else of what happened matters: not
the cycles, not the faults, not what the program wrote into its own memory, not the longer programs
before it, and not the programs that were refused.

* `Session.Descends` — a session that came from another one, with the programs it took on the
  way; `Session.Effect.descends` and `Session.descends_operateAll` — sessions come from one
  another by operations.
* `Session.restart_restores` — a restart goes back to a session that is newly opened with the
  program that was taken last, and a program that is refused changes nothing.
-/

namespace ChipEight

namespace Session

/-- What is left of one session in another one that came from it, and the programs that were
taken on the way. -/
structure Descends (s : Session) (taken : List Image) (t : Session) : Prop where
  seed : t.seed = s.seed
  mode : t.mode = s.mode
  traced : t.traced = s.traced
  program : t.program = taken.getLast?.or s.program
  fits : ∀ image ∈ taken, image.length ≤ Layout.imageCapacity

namespace Descends

variable {s t u : Session} {xs ys : List Image}

theorem refl (s : Session) : s.Descends [] s := ⟨rfl, rfl, rfl, rfl, by simp⟩

theorem trans (h : s.Descends xs t) (k : t.Descends ys u) : s.Descends (xs ++ ys) u where
  seed := k.seed.trans h.seed
  mode := k.mode.trans h.mode
  traced := k.traced.trans h.traced
  program := by
    -- of the programs of both ways the last one counts, whichever way it was taken on
    rw [k.program, h.program, List.getLast?_append, Option.or_assoc]
  fits image hi := by
    rcases List.mem_append.1 hi with hx | hy
    · exact h.fits image hx
    · exact k.fits image hy

end Descends

/-! ## Histories -/

variable {s : Session} {o : Operation} {out : Outcome}

/-- Only an operation that takes a program leaves something behind for a restart: no other one
touches the key, the mode or the program a session remembers. -/
theorem Effect.descends (h : Effect s o out) :
    s.Descends (o.taken? out).toList out.session := by
  cases h with
  | refused f =>
    rw [Operation.taken?_of_failed rfl]
    exact .refl s
  | counted c hk =>
    rw [Operation.taken?_of_ne_image (by simp [hk]), session_counted]
    exact ⟨rfl, rfl, rfl, rfl, by simp⟩
  | restarted hk | keyed pad hk | looked hk =>
    rw [Operation.taken?_of_ne_image (by simp [hk])]
    exact ⟨rfl, rfl, rfl, rfl, by simp⟩
  | @loaded image note hk hi hfit =>
    have htaken : o.taken? (s.loaded (s.machine.withImage image) image note) = some image := hi
    rw [htaken]
    exact ⟨rfl, rfl, rfl, rfl, by simpa using hfit⟩

/-- By induction on the history: what a session remembers after it are the key and the mode it was
opened with and the last of the programs it took. -/
theorem descends_operateAll (s : Session) (history : List Operation) :
    s.Descends (s.acceptedImages history) (s.operateAll history) := by
  induction history generalizing s with
  | nil => exact .refl s
  | cons o rest ih => exact (effect_operate s o).descends.trans (ih _)

variable {seed : Random.Key} {mode : Mode} {traced : Bool} {program : Option Program}

/-- A session that is opened comes from a fresh one. -/
theorem descends_opened (h : opened seed mode traced program = .ok s) :
    (fresh seed mode traced).Descends (program.bind fun p => p.image.toOption).toList s := by
  cases program with
  | none =>
    cases h
    exact .refl _
  | some p =>
    have hstep := (effect_load (s := fresh seed mode traced) p).descends
    simp only [opened] at h
    split at h
    · cases h
    · rename_i hok
      cases h
      rwa [Operation.taken?, hok] at hstep

/-- A restart opens the session anew, with the program that was taken last. -/
theorem Descends.opened_getLast? {taken : List Image} {t : Session}
    (h : (fresh seed mode traced).Descends taken t) :
    opened seed mode traced (taken.getLast?.map .bytes) = .ok (t.perform .reset).session := by
  have hprogram : t.program = taken.getLast? := h.program.trans Option.or_none
  have hseed : t.seed = seed := h.seed
  have hmode : t.mode = mode := h.mode
  have htraced : t.traced = traced := h.traced
  have hsession : (t.perform .reset).session =
      ⟨seed, mode, traced, taken.getLast?, .whole 0, t.start⟩ := by
    rw [← hseed, ← hmode, ← htraced, ← hprogram]
    rfl
  rw [hsession, start, hseed, hmode, hprogram]
  cases hlast : taken.getLast? with
  | none => rfl
  | some image =>
    have hfit := h.fits image (List.mem_of_getLast? hlast)
    have hload := load_of_fits (fresh seed mode traced).machine hfit
    simp only [Option.map_some, opened, perform, Machine.loadFrom, Program.image, hload]
    rfl

/-- A program that is refused changes nothing. -/
theorem Effect.session_of_failed (h : Effect s o out) (hk : o.kind = .image)
    (hf : out.failure ≠ none) : out.session = s := by
  cases h with
  | refused => rfl
  | loaded => exact absurd rfl hf
  | counted _ h | restarted h | keyed _ h | looked h =>
    rw [hk] at h
    cases h

/-- **A restart opens the session anew.**  After every history a restart succeeds and leaves the
session that is opened with the same key and mode and with the program that was taken last: the
one of the beginning, if it was given one and none was taken since.  A program that is refused
leaves the session as it was. -/
theorem restart_restores (hopened : opened seed mode traced program = .ok s)
    (history : List Operation) :
    let t := s.operateAll history
    let taken := (program.bind fun p => p.image.toOption).toList ++ s.acceptedImages history
    (t.operate (.command .reset)).failure = none ∧
    opened seed mode traced (taken.getLast?.map .bytes) =
      .ok (t.operate (.command .reset)).session ∧
    ∀ o, o.kind = .image → (t.operate o).failure ≠ none → (t.operate o).session = t := by
  intro t taken
  have hdescends : (fresh seed mode traced).Descends taken t :=
    (descends_opened hopened).trans (descends_operateAll s history)
  exact ⟨rfl, hdescends.opened_getLast?,
    fun o hk hf => (effect_operate t o).session_of_failed hk hf⟩

/-- A program that writes over its own second instruction. -/
def overwriting : Image := [0xA2, 0x02, 0xF0, 0x55]

/-- What a host can do before it restarts a session. -/
def detours : List Operation :=
  [.cycles (.int 3) (.bool false), .command (.load (.bytes overwriting)), .command .reset,
    .command .step, .command .step, .command (.press 3),
    .command (.loadFile "none" (.error (.missing "none"))), .command .step]

theorem restart_restores_overwriting :
    ∃ s, opened ⟨0, 0⟩ .modern true (some (.bytes [0x60, 0x01, 0x00, 0xEE])) = .ok s ∧
      opened ⟨0, 0⟩ .modern true (some (.bytes overwriting)) =
        .ok ((s.operateAll detours).operate (.command .reset)).session ∧
      ((s.operateAll detours).operate (.command (.load (.elements [.int 256])))).session =
        s.operateAll detours := by
  obtain ⟨s, hopened, htaken, hrefused⟩ :
      ∃ s, opened ⟨0, 0⟩ .modern true (some (.bytes [0x60, 0x01, 0x00, 0xEE])) = .ok s ∧
        s.acceptedImages detours = [overwriting] ∧
        ((s.operateAll detours).operate (.command (.load (.elements [.int 256])))).failure ≠
          none :=
    ⟨_, rfl, by decide +kernel⟩
  obtain ⟨-, hreset, hkept⟩ := restart_restores hopened detours
  rw [htaken] at hreset
  exact ⟨s, hopened, hreset, hkept _ rfl hrefused⟩

end Session

end ChipEight
