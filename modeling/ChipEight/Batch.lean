import ChipEight.Machine.Summary
import ChipEight.Ordered
import ChipEight.Picture
import ChipEight.Placeholder.Check
import ChipEight.Seed
import ChipEight.Session

/-!
# Batch runs

A batch run, `main`, loads a program, does a fixed number of cycles, shows what the machine
looks like then, and may save its screen.  It is driven by settings: a list of named
values in a fixed order, of which any can be replaced and to which others can be added.
-/

namespace ChipEight.Batch

/-- The settings of a run, in the order in which they are shown. -/
abbrev Settings := List (String × Value)

namespace Settings

/-- The text that stands for a value that is still to be named. -/
def unnamed : String := "???"

/-- The settings a run starts from.  The program has to be named. -/
def standard : Settings := [
  ("rom", .text unnamed),
  ("cycles", .int 600),
  ("seed", .int 0),
  ("modern_mode", .bool false),
  ("trace", .bool false),
  ("progress", .bool true),
  ("frame", .null),
  ("scale", .int 8),
  ("color_scheme", .text Palette.defaultName),
  ("log_level", .text "INFO")]

/-- Whether a value is still to be named. -/
def isUnnamed : Value → Bool
  | .text s => s == unnamed
  | _ => false

/-- Replaces settings where they stand and adds new ones at the end.  A value that is
still to be named replaces nothing. -/
def merge (settings changes : Settings) : Settings :=
  Ordered.putAll settings
    (changes.filter fun c => !(isUnnamed c.2 && (settings.lookup c.1).isSome))

/-- Replaces settings by changes whose placeholders are well formed. -/
def override (settings changes : Settings) : Except Placeholder.SettingError Settings :=
  (Placeholder.checkSettings changes).map fun _ => merge settings changes

/-- The value of a setting. -/
def get (settings : Settings) (key : String) : Value := (settings.lookup key).getD .null

end Settings

/-- Why a run ends early. -/
inductive Error
  | level (e : LevelError)
  | seed (e : SeedError)
  | session (e : Failure)
  | picture (e : PictureError)
  /-- The name of a file that is no text. -/
  | nameKind (kind : String)
  /-- A time that could not be shown. -/
  | time (e : NumberError)
deriving DecidableEq, Repr

/-- The wording of the error. -/
def Error.message : Error → String
  | .level e => e.message
  | .seed e => e.message
  | .session e => e.message
  | .picture e => e.message
  | .nameKind kind => "expected str, bytes or os.PathLike object, not " ++ kind
  | .time e => e.message

/-- The name of a file. -/
def nameOf : Value → Except Error String
  | .text s => .ok s
  | v => .error (.nameKind v.kind)

/-- What a run has done so far, and why it ended if it ended early. -/
structure Transcript where
  console : Console
  bar : List Progress.Event := []
  saved : Option (Picture × Picture.Format) := none
  failure : Option Error := none

namespace Transcript

/-- A run that ends early. -/
def failed (t : Transcript) (e : Error) : Transcript := { t with failure := some e }

/-- Prints, and goes on if all times could be shown. -/
def printing (t : Transcript) (print : Console → Console) (next : Transcript → Transcript) :
    Transcript :=
  let console := print t.console
  let t := { t with console := console }
  match console.failure with
  | some e => t.failed (.time e)
  | none => next t

end Transcript

/-- What a run gets from its host: the files there are, and the room there is for an array. -/
structure Host where
  directory : Storage.Directory
  room : Nat

/-- A session on the named program: `main` up to `load_rom`. -/
def openSession (directory : Storage.Directory) (settings : Settings) :
    Except Error (Session × String × Except Storage.FileError Image) := do
  let key ← (Seed.key (settings.get "seed")).mapError .seed
  let mode : Mode := if (settings.get "modern_mode").isOn then .modern else .legacy
  let rom ← nameOf (settings.get "rom")
  let path := Storage.absolute directory.path rom
  return (Session.fresh key mode (settings.get "trace").isOn, path, directory.read path)

/-- Saves the screen if a file for it is named. -/
def saveScreen (host : Host) (settings : Settings) (s : Session) :
    Except Error (Option (String × Picture × Picture.Format)) :=
  if !(settings.get "frame").isOn then .ok none
  else do
    let frame ← nameOf (settings.get "frame")
    let path := Storage.absolute host.directory.path frame
    let (picture, format) ←
      (Picture.save host.room host.directory path path (.row s.machine.screen.toArray)
        (settings.get "scale") (settings.get "color_scheme")).mapError .picture
    return some (path, picture, format)

/-- The lines a run ends with. -/
def summary (m : Machine) : List Message :=
  [⟨.info, m.positionLine⟩, ⟨.info, m.registerLine⟩, ⟨.info, m.timerLine⟩]

/-- Shows the machine and saves its screen. -/
def conclude (host : Host) (settings : Settings) (logger : Logger) (s : Session)
    (t : Transcript) : Transcript :=
  t.printing (·.logAll logger (summary s.machine)) fun t =>
    match saveScreen host settings s with
    | .error e => t.failed e
    | .ok none => t
    | .ok (some (path, picture, format)) =>
      { t with saved := some (picture, format) }.printing
        (·.log logger ⟨.info, "Frame saved in " ++ path⟩) id

/-- The run of a loaded session. -/
def finish (host : Host) (settings : Settings) (logger : Logger) (traceLog : Option Logger)
    (s : Session) (t : Transcript) : Transcript :=
  let done := s.runFor (settings.get "cycles") (settings.get "progress")
  { t with bar := done.report.bar }.printing (·.report logger traceLog done.report) fun t =>
    match done.failure with
    | some (.halt (.fault r)) =>
      let note :=
        "Halted after at most " ++ (settings.get "cycles").shown ++ " cycles: " ++ r.message
      t.printing (·.log logger ⟨.error, note⟩)
        (conclude host settings logger done.session)
    | some e => t.failed (.session e)
    | none => conclude host settings logger done.session t

/-- The logger of a trace, if one is asked for.  Making it prints nothing. -/
def traceLogger (settings : Settings) (level : Level) (c : Console) : Option Logger × Console :=
  if (settings.get "trace").isOn then
    let (l, c) := c.makeLogger "Trace" level true
    (some l, c)
  else (none, c)

/-- The run once its settings are shown. -/
def start (host : Host) (settings : Settings) (logger : Logger) (level : Level)
    (t : Transcript) : Transcript :=
  let (traceLog, console) := traceLogger settings level t.console
  let t := { t with console := console }
  match openSession host.directory settings with
  | .error e => t.failed e
  | .ok (s, path, content) =>
    let loaded := s.perform (.loadFile path content)
    t.printing (·.report logger traceLog loaded.report) fun t =>
      match loaded.failure with
      | some e => t.failed (.session e)
      | none => finish host settings logger traceLog loaded.session t

/-- A whole run. -/
def run (host : Host) (settings : Settings) (clock : Clock) : Transcript :=
  match Level.ofValue (settings.get "log_level") with
  | .error e => { console := { clock := clock }, failure := some (.level e) }
  | .ok level =>
    let (logger, console) := ({ clock := clock } : Console).makeLogger "chip8vm" level true
    { console := console : Transcript }.printing (·.logSettings logger settings)
      (start host settings logger level)

end ChipEight.Batch
