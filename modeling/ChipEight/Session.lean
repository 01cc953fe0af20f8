import ChipEight.Count
import ChipEight.Log
import ChipEight.Machine.Image
import ChipEight.Machine.Keys
import ChipEight.Trace

/-!
# Sessions

A session is a machine in the hands of a host, `Interpreter`: the program to go back to, the
number of cycles that were asked for, and commands that may fail.  What a command has to say
(trace records, what is asked of a progress bar, log messages) is data in its report;
printing it is left to the host, so a session itself has no effects.
-/

namespace ChipEight

/-- A machine with what the host needs around it. -/
structure Session where
  /-- The key a fresh machine starts with. -/
  seed : Random.Key
  mode : Mode
  /-- Whether cycles are recorded. -/
  traced : Bool
  /-- The image that was loaded last. -/
  program : Option Image
  cycles : Number
  machine : Machine
deriving DecidableEq, Repr

/-- What a command has to say, in the order in which it says it. -/
structure Report where
  records : List Record := []
  bar : List Progress.Event := []
  messages : List Message := []

/-- Why a command failed. -/
inductive Failure
  | halt (h : Halt)
  | image (e : ImageError)
  | file (e : Storage.FileError)
  | keys (e : KeyError)
  /-- More cycles than the counter of a run can be compared with. -/
  | width (e : WidthError)
  /-- A value that asks for no number of cycles. -/
  | count (e : CountError)
deriving DecidableEq, Repr

/-- The wording of a failure. -/
def Failure.message : Failure → String
  | .halt h => h.message
  | .image e => e.message
  | .file e => e.message
  | .keys e => e.message
  | .width e => e.message
  | .count e => e.message

/-- What a host can ask of a session. -/
inductive Command
  /-- One cycle: `step`. -/
  | step
  /-- A number of cycles at once, with a progress bar or without: `run`. -/
  | run (cycles : Int) (showBar : Bool)
  /-- Back to the start of the program: `reset`. -/
  | reset
  /-- A program from the host: `load_program`. -/
  | load (program : Program)
  /-- A program from a named file, if the file could be read: `load_rom`. -/
  | loadFile (name : String) (content : Except Storage.FileError Image)
  /-- Exactly these keys are held: `set_keys`. -/
  | hold (input : KeyInput)
  /-- A key goes down: `press_key`. -/
  | press (key : Int)
  /-- A key goes up: `release_key`. -/
  | release (key : Int)
  /-- The host has seen the screen: `acknowledge_redraw`. -/
  | acknowledge

/-- What a command leaves behind. -/
structure Outcome where
  session : Session
  report : Report := {}
  failure : Option Failure := none

namespace Session

/-- A session without a program. -/
def fresh (seed : Random.Key) (mode : Mode) (traced : Bool) : Session where
  seed := seed
  mode := mode
  traced := traced
  program := none
  cycles := .whole 0
  machine := Machine.fresh mode seed

/-- Reports the fault of a stopped machine: `_check`.  Only a fault is logged. -/
def checked (s : Session) (report : Report) : Outcome :=
  match s.machine.halt? with
  | none => ⟨s, report, none⟩
  | some (.fault r) =>
    { session := s
      report := { report with messages := report.messages ++ [⟨.error, r.message⟩] }
      failure := some (.halt (.fault r)) }
  | some h => ⟨s, report, some (.halt h)⟩

/-- The text behind the name of a program that was loaded. -/
def sizeNote (image : Image) : String := " (" ++ Text.decimal image.length ++ " bytes)"

/-- The session with a new machine state. -/
def withMachine (s : Session) (m : Machine) : Session := { s with machine := m }

/-- The machine a `reset` goes back to. -/
def start (s : Session) : Machine :=
  let m := Machine.fresh s.mode s.seed
  match s.program with
  | none => m
  | some image => m.withImage image

/-- The machine after a number of cycles, with what they ask of a bar if one is shown. -/
def advanced (m : Machine) (cycles : Int) (plan : Option Progress.Plan) :
    Machine × List Progress.Event :=
  match plan with
  | some p => Progress.scan p cycles (fun m _ => m.cycle) m
  | none => (m.run cycles.toNat, [])

/-- Cycles, counted as they were asked for whether or not they were done: what `step` and `run` do
once `run_n_cycles` accepts the number. -/
def counted (s : Session) (count : Count) : Outcome :=
  let records := if s.traced then s.machine.trace count.cycles.toNat else []
  let (machine, bar) := advanced s.machine count.cycles count.plan
  let s := { s with machine := machine, cycles := s.cycles.add count.asked }
  s.checked { records := records, bar := bar }

/-- A command that fails and changes nothing. -/
def refused (s : Session) (f : Failure) : Outcome := ⟨s, {}, some f⟩

/-- As many cycles as can be counted, with a bar or without one. -/
def cycled (s : Session) (count : Count) : Outcome :=
  match count.check with
  | .error e => s.refused (.width e)
  | .ok _ => s.counted count

/-- Takes over a machine with a new program. -/
def loaded (s : Session) (m : Machine) (image : Image) (note : Message) : Outcome :=
  ⟨{ s with machine := m, program := some image }, { messages := [note] }, none⟩

/-- Takes over the keypad of a machine. -/
def withKeys (s : Session) (result : Except KeyError Machine) : Outcome :=
  match result with
  | .error e => s.refused (.keys e)
  | .ok m => { session := s.withMachine m }

/-- Does a command. -/
def perform (s : Session) : Command → Outcome
  | .step => s.cycled (.whole 1 false)
  | .run cycles showBar => s.cycled (.whole cycles showBar)
  | .reset =>
    ⟨{ s with machine := s.start, cycles := .whole 0 },
      { messages := [⟨.debug, "Interpreter reset"⟩] }, none⟩
  | .load p =>
    match s.machine.loadFrom p with
    | .error e => s.refused (.image e)
    | .ok (m, image) => s.loaded m image ⟨.debug, "Loaded program" ++ sizeNote image⟩
  | .loadFile name content =>
    match content with
    | .error e => s.refused (.file e)
    | .ok image =>
      match s.machine.load image with
      | .error e => s.refused (.image (.tooLarge e))
      | .ok m => s.loaded m image ⟨.info, "Loaded " ++ name ++ sizeNote image⟩
  | .hold input => s.withKeys (s.machine.hold input)
  | .press key => s.withKeys (s.machine.moveKey key true)
  | .release key => s.withKeys (s.machine.moveKey key false)
  | .acknowledge => { session := s.withMachine s.machine.acknowledge }

/-- A number of cycles, and whether to show a bar for them, as the host gives them. -/
def runFor (s : Session) (cycles showBar : Value) : Outcome :=
  match Count.ofValues cycles showBar with
  | .error e => s.refused (.count e)
  | .ok count => s.cycled count

/-- Whole numbers and truth values are what they stand for. -/
theorem runFor_int (s : Session) (cycles : Int) (showBar : Bool) :
    s.runFor (.int cycles) (.bool showBar) = s.perform (.run cycles showBar) := by
  rw [runFor, Count.ofValues_int cycles showBar]
  rfl

/-- Does commands one after the other, whether they fail or not. -/
def performAll (s : Session) : List Command → Session
  | [] => s
  | c :: rest => performAll (s.perform c).session rest

/-- Whether the machine was stopped: `halted`. -/
def halted (s : Session) : Bool := s.machine.halted

/-- Whether the screen was drawn on since the host last looked: `needs_redraw`. -/
def wantsRedraw (s : Session) : Bool := s.machine.redraw

end Session

namespace Console

/-- Prints a report: its trace records first if they go to a logger, then its messages. -/
def report (c : Console) (l : Logger) (traceLog : Option Logger) (r : Report) : Console :=
  let c := match traceLog with
    | none => c
    | some t => c.logAll t (r.records.map fun (record : Record) => ⟨.debug, record.line⟩)
  c.logAll l r.messages

end Console

end ChipEight
