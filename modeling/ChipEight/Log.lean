import ChipEight.Number

/-!
# The console log

A logger, `ConsoleLogger`, prints the messages of its level and above, each with the time since the
logger was made, the level and the logger's name.  The clock is a list of readings
and the console a list of printed texts, so that logging is a function like any other.  A
console on which a time could not be shown prints nothing more.
-/

namespace ChipEight

open Text

/-- How important a message is. -/
inductive Level
  | debug
  | info
  | warning
  | error
deriving DecidableEq, Repr

namespace Level

/-- All levels in ascending order: `LEVELS`. -/
def all : List Level := [.debug, .info, .warning, .error]

/-- The place of a level in that order. -/
def rank : Level → Nat
  | .debug => 0
  | .info => 1
  | .warning => 2
  | .error => 3

/-- How a level is printed. -/
def name : Level → String
  | .debug => "DEBUG"
  | .info => "INFO"
  | .warning => "WARNING"
  | .error => "ERROR"

/-- The level of a name. -/
def ofName? (s : String) : Option Level := all.find? fun l => l.name == s

/-- The capital of a letter that has one among the letters of the names.  The dotless
letter has the same capital as the dotted one. -/
def capital (c : Char) : Char :=
  if c.toNat = 0x131 then 'I' else c.toUpper

/-- The level a threshold names, in letters of either case; any other name is `info`. -/
def threshold (s : String) : Level :=
  (ofName? (String.ofList (s.toList.map capital))).getD .info

end Level

/-- Why a level is refused. -/
inductive LevelError
  /-- A message at a level that does not exist. -/
  | unknown (name : String)
  /-- A threshold that is no text but a value of another kind. -/
  | notText (kind : String)
deriving DecidableEq, Repr

/-- The wording of the error. -/
def LevelError.message : LevelError → String
  | .unknown _ => "tuple.index(x): x not in tuple"
  | .notText kind => "'" ++ kind ++ "' object has no attribute 'upper'"

/-- The level a threshold stands for, which has to be a text. -/
def Level.ofValue : Value → Except LevelError Level
  | .text s => .ok (Level.threshold s)
  | v => .error (.notText v.kind)

/-- A message with its level. -/
structure Message where
  level : Level
  text : String
deriving DecidableEq, Repr

/-- The readings a clock is going to give.  The last one is given forever. -/
structure Clock where
  readings : List Number := []

namespace Clock

/-- One reading. -/
def read (c : Clock) : Number × Clock :=
  match c.readings with
  | [] => (.whole 0, c)
  | [t] => (t, c)
  | t :: rest => (t, ⟨rest⟩)

end Clock

/-- Where loggers print, and the clock they look at. -/
structure Console where
  clock : Clock := {}
  printed : Array String := #[]
  /-- Why a time could not be shown. -/
  failure : Option NumberError := none

/-- A logger. -/
structure Logger where
  name : String
  threshold : Level
  stamped : Bool
  start : Number

namespace Logger

/-- The text in front of a message. -/
def lead (l : Logger) (level : Level) : String :=
  "[" ++ String.ofList (padLeft ' ' 8 level.name.toList) ++ "][" ++ l.name ++ "] "

/-- The time since the logger was made. -/
def stamp (l : Logger) (now : Number) : Except NumberError String := do
  let elapsed ← now.sub l.start
  return "[" ++ (← elapsed.fixedRight 8 2) ++ "s]"

/-- Whether messages of a level are printed: `_should_log`. -/
def prints (l : Logger) (level : Level) : Bool := decide (l.threshold.rank ≤ level.rank)

end Logger

namespace Console

/-- Makes a logger.  The clock is read once, also if the logger shows no times. -/
def makeLogger (c : Console) (name : String) (threshold : Level) (stamped : Bool) :
    Logger × Console :=
  let (now, clock) := c.clock.read
  ({ name := name, threshold := threshold, stamped := stamped, start := now },
    { c with clock := clock })

/-- Prints a text. -/
def print (c : Console) (s : String) : Console := { c with printed := c.printed.push s }

/-- A console that is read: nothing is printed on it and nothing was wrong. -/
def cleared (c : Console) : Console := { clock := c.clock }

/-- Logs a message: `log`.  The clock is read only for a time that is shown. -/
def log (c : Console) (l : Logger) (m : Message) : Console :=
  if !l.prints m.level || c.failure.isSome then c
  else if l.stamped then
    let (now, clock) := c.clock.read
    let c := { c with clock := clock }
    match l.stamp now with
    | .ok stamp => c.print (stamp ++ l.lead m.level ++ m.text)
    | .error e => { c with failure := some e }
  else c.print (l.lead m.level ++ m.text)

/-- Logs messages in order. -/
def logAll (c : Console) (l : Logger) (ms : List Message) : Console :=
  ms.foldl (fun c m => c.log l m) c

/-- Logs a message at a level given by its name, which has to be exact. -/
def logNamed (c : Console) (l : Logger) (level text : String) : Except LevelError Console :=
  match Level.ofName? level with
  | none => .error (.unknown level)
  | some lvl => .ok (c.log l ⟨lvl, text⟩)

/-- The line above and below a configuration. -/
def rule : String := String.ofList (List.replicate 60 '=')

/-- The messages that show a configuration, a setting a line. -/
def configMessages (settings : List (String × Value)) : List Message :=
  [⟨.info, rule⟩, ⟨.info, "Configuration:"⟩]
    ++ settings.map (fun s => ⟨.info, "  " ++ s.1 ++ ": " ++ s.2.shown⟩)
    ++ [⟨.info, rule⟩]

/-- Logs a configuration: `log_config`. -/
def logSettings (c : Console) (l : Logger) (settings : List (String × Value)) : Console :=
  c.logAll l (configMessages settings)

end Console

end ChipEight
