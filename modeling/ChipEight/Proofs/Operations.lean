import ChipEight.Session

/-!
# The operations of a host

A host asks a session (`Interpreter`) for one thing after the other: cycles, a restart, a program,
other keys to be held, a look at the screen.  Some of it is refused.  Whatever was asked for, what
the session does is one of six things, and a proof about every history has to look at no more than
these.

* `Session.operateAll` — a history: operations in any order, refused or not.
* `Session.Effect` — the six things, each with the kind of operation that can do it;
  `Session.effect_operate` — every operation does one of them.
* `Session.opened` — the session a history starts with, and
  `Session.acceptedImages` — the programs that were taken over in the course of one.
-/

namespace ChipEight

/-! ## Operations and histories -/

/-- What a host can ask for: a command, or cycles whose number is given as a host value. -/
inductive Operation
  | command (c : Command)
  | cycles (number showBar : Value)

namespace Operation

/-- What an operation is about. -/
inductive Kind
  | cycles
  | restart
  | image
  | keys
  | look
deriving DecidableEq, Repr

/-- What an operation is about. -/
def kind : Operation → Kind
  | .cycles .. => .cycles
  | .command .step => .cycles
  | .command (.run ..) => .cycles
  | .command .reset => .restart
  | .command (.load _) => .image
  | .command (.loadFile ..) => .image
  | .command (.hold _) => .keys
  | .command (.press _) => .keys
  | .command (.release _) => .keys
  | .command .acknowledge => .look

/-- The program an operation hands over, if it can be read. -/
def image? : Operation → Option Image
  | .command (.load p) => p.image.toOption
  | .command (.loadFile _ content) => content.toOption
  | _ => none

/-- The program an operation hands over, if it was taken. -/
def taken? (o : Operation) (out : Outcome) : Option Image :=
  if out.failure.isNone then o.image? else none

theorem image?_eq_none {o : Operation} (h : o.kind ≠ .image) : o.image? = none := by
  cases o with
  | cycles => rfl
  | command c => cases c <;> first | rfl | exact absurd rfl h

theorem taken?_of_failed {o : Operation} {out : Outcome} {f : Failure}
    (h : out.failure = some f) : o.taken? out = none := by
  rw [taken?, h]
  rfl

theorem taken?_of_ne_image {o : Operation} (h : o.kind ≠ .image) (out : Outcome) :
    o.taken? out = none := by
  rw [taken?, image?_eq_none h, ite_self]

end Operation

namespace Session

/-- Does what a host asks for. -/
def operate (s : Session) : Operation → Outcome
  | .command c => s.perform c
  | .cycles number showBar => s.runFor number showBar

/-- Does one operation after the other, whether they are refused or not. -/
def operateAll (s : Session) : List Operation → Session
  | [] => s
  | o :: rest => (s.operate o).session.operateAll rest

/-- Opens a session, with a program or without.  A program that is refused opens none. -/
def opened (seed : Random.Key) (mode : Mode) (traced : Bool) :
    Option Program → Except Failure Session
  | none => .ok (fresh seed mode traced)
  | some p =>
    let loading := (fresh seed mode traced).perform (.load p)
    match loading.failure with
    | some f => .error f
    | none => .ok loading.session

/-- The programs that were taken over in the course of a history, in order. -/
def acceptedImages (s : Session) : List Operation → List Image
  | [] => []
  | o :: rest => (o.taken? (s.operate o)).toList ++ (s.operate o).session.acceptedImages rest

/-! ## Cycles -/

@[simp] theorem session_checked (s : Session) (r : Report) : (s.checked r).session = s := by
  unfold checked
  split <;> rfl

theorem failure_checked (s : Session) (r : Report) :
    (s.checked r).failure = s.machine.halt?.map .halt := by
  unfold checked
  split <;> rename_i h <;> rw [h] <;> rfl

theorem records_checked (s : Session) (r : Report) :
    (s.checked r).report.records = r.records := by
  unfold checked
  split <;> rfl

theorem foldl_cycle (m : Machine) (is : List Int) :
    is.foldl (fun m _ => m.cycle) m = m.run is.length := by
  induction is generalizing m with
  | nil => rfl
  | cons i rest ih => rw [List.foldl_cons, ih, List.length_cons, Machine.run]

/-- A progress bar does not change what it counts. -/
theorem fst_advanced (m : Machine) (n : Int) (plan : Option Progress.Plan) :
    (advanced m n plan).1 = m.run n.toNat := by
  cases plan with
  | none => rfl
  | some p =>
    have hlen : (Progress.iterations n).length = n.toNat := by simp [Progress.iterations]
    rw [advanced, Progress.scan, Progress.Bar.fst_scan, foldl_cycle, hlen]

theorem session_counted (s : Session) (c : Count) :
    (s.counted c).session =
      { s with machine := s.machine.run c.cycles.toNat, cycles := s.cycles.add c.asked } := by
  simp only [counted, session_checked, fst_advanced]

theorem records_counted (s : Session) (c : Count) :
    (s.counted c).report.records =
      if s.traced then s.machine.trace c.cycles.toNat else [] := by
  simp only [counted, records_checked]

theorem failure_counted (s : Session) (c : Count) :
    (s.counted c).failure = (s.machine.run c.cycles.toNat).halt?.map .halt := by
  simp only [counted, failure_checked, fst_advanced]

theorem perform_step (s : Session) : s.perform .step = s.counted (.whole 1 false) := by
  simp only [perform, cycled, Count.whole]
  rfl

theorem session_step (s : Session) :
    (s.perform .step).session =
      { s with machine := s.machine.cycle, cycles := s.cycles.add (.whole 1) } := by
  rw [perform_step, session_counted]
  rfl

theorem records_step (s : Session) :
    (s.perform .step).report.records = if s.traced then s.machine.record?.toList else [] := by
  have htrace : s.machine.trace 1 = s.machine.record?.toList := List.append_nil _
  rw [perform_step, records_counted, ← htrace]
  rfl

theorem failure_step (s : Session) :
    (s.perform .step).failure = s.machine.cycle.halt?.map .halt := by
  rw [perform_step, failure_counted]
  rfl

/-! ## Keys and images -/

theorem hold_eq {m m' : Machine} {input : KeyInput} (h : m.hold input = .ok m') :
    ∃ pad, m' = { m with keypad := pad } := by
  unfold Machine.hold at h
  split at h
  · cases h
  · rename_i sel _
    cases hk : sel.keypad with
    | error e =>
      rw [hk] at h
      cases h
    | ok pad =>
      rw [hk] at h
      cases h
      exact ⟨pad, rfl⟩

theorem moveKey_eq {m m' : Machine} {key : Int} {down : Bool}
    (h : m.moveKey key down = .ok m') : ∃ pad, m' = { m with keypad := pad } := by
  unfold Machine.moveKey at h
  split at h
  · cases h
    exact ⟨_, rfl⟩
  · cases h

theorem load_eq {m m' : Machine} {image : Image} (h : m.load image = .ok m') :
    image.length ≤ Layout.imageCapacity ∧ m' = m.withImage image := by
  unfold Machine.load at h
  split at h
  · rename_i hfit
    cases h
    exact ⟨hfit, rfl⟩
  · cases h

theorem load_of_fits (m : Machine) {image : Image} (h : image.length ≤ Layout.imageCapacity) :
    m.load image = .ok (m.withImage image) :=
  if_pos h

theorem loadFrom_eq {m m' : Machine} {p : Program} {image : Image}
    (h : m.loadFrom p = .ok (m', image)) :
    p.image = .ok image ∧ image.length ≤ Layout.imageCapacity ∧ m' = m.withImage image := by
  unfold Machine.loadFrom at h
  split at h
  · cases h
  · rename_i hread
    split at h
    · cases h
    · rename_i hload
      cases h
      exact ⟨hread, load_eq hload⟩

/-! ## What an operation does -/

/-- What a session does when it is asked for something. -/
inductive Effect (s : Session) (o : Operation) : Outcome → Prop
  /-- Nothing but to say why; the machine has no part in it. -/
  | refused (f : Failure) (h : o.kind ≠ .restart ∧ o.kind ≠ .look) (hf : ∀ x, f ≠ .halt x) :
      Effect s o (s.refused f)
  /-- Some cycles. -/
  | counted (c : Count) (h : o.kind = .cycles) : Effect s o (s.counted c)
  | restarted (h : o.kind = .restart) : Effect s o (s.perform .reset)
  /-- A program that fits into memory is taken over. -/
  | loaded {image : Image} (note : Message) (h : o.kind = .image) (hi : o.image? = some image)
      (hfit : image.length ≤ Layout.imageCapacity) :
      Effect s o (s.loaded (s.machine.withImage image) image note)
  | keyed (pad : Keypad) (h : o.kind = .keys) :
      Effect s o { session := s.withMachine { s.machine with keypad := pad } }
  | looked (h : o.kind = .look) : Effect s o (s.perform .acknowledge)

variable {s : Session} {o : Operation}

theorem effect_cycled (c : Count) (h : o.kind = .cycles) : Effect s o (s.cycled c) := by
  have hk : o.kind ≠ .restart ∧ o.kind ≠ .look := by simp [h]
  unfold cycled
  split
  · exact .refused _ hk (by simp)
  · exact .counted c h

theorem effect_withKeys {r : Except KeyError Machine} (h : o.kind = .keys)
    (hr : ∀ m, r = .ok m → ∃ pad, m = { s.machine with keypad := pad }) :
    Effect s o (s.withKeys r) := by
  cases r with
  | error e => exact .refused _ (by simp [h]) (by simp)
  | ok m =>
    obtain ⟨pad, rfl⟩ := hr m rfl
    exact .keyed pad h

theorem effect_load (p : Program) : Effect s (.command (.load p)) (s.perform (.load p)) := by
  simp only [perform]
  split
  · exact .refused _ (by simp [Operation.kind]) (by simp)
  · rename_i m image h
    obtain ⟨hread, hfit, rfl⟩ := loadFrom_eq h
    exact .loaded _ rfl (by simp only [Operation.image?, hread, Except.toOption]) hfit

theorem effect_loadFile (name : String) (content : Except Storage.FileError Image) :
    Effect s (.command (.loadFile name content)) (s.perform (.loadFile name content)) := by
  cases content with
  | error e => exact .refused _ (by simp [Operation.kind]) (by simp)
  | ok image =>
    simp only [perform]
    split
    · exact .refused _ (by simp [Operation.kind]) (by simp)
    · rename_i m h
      obtain ⟨hfit, rfl⟩ := load_eq h
      exact .loaded _ rfl rfl hfit

/-- **Whatever a host asks for, the session does one of the six things.** -/
theorem effect_operate (s : Session) (o : Operation) : Effect s o (s.operate o) := by
  cases o with
  | cycles number showBar =>
    simp only [operate, runFor]
    split
    · exact .refused _ (by simp [Operation.kind]) (by simp)
    · exact effect_cycled _ (by rfl)
  | command c =>
    simp only [operate]
    cases c with
    | step => exact effect_cycled (.whole 1 false) (by rfl)
    | run cycles showBar => exact effect_cycled (.whole cycles showBar) (by rfl)
    | reset => exact .restarted rfl
    | load p => exact effect_load p
    | loadFile name content => exact effect_loadFile name content
    | hold input => exact effect_withKeys rfl fun _ => hold_eq
    | press key => exact effect_withKeys rfl fun _ => moveKey_eq
    | release key => exact effect_withKeys rfl fun _ => moveKey_eq
    | acknowledge => exact .looked rfl

end Session

end ChipEight
