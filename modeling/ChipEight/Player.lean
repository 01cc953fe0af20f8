import ChipEight.Machine.Summary
import ChipEight.Picture
import ChipEight.Session
import ChipEight.Speed

/-!
# Playing

A player runs a session turn by turn: `run_emulator` and its loop.  A turn takes the host's
events, does some cycles unless it is paused or the machine was stopped, and shows the screen if
it was drawn on.  The debug display shows the registers over the screen; a fault switches it on.
-/

namespace ChipEight

/-- What the host has to tell.  Keys go by their names. -/
inductive HostEvent
  | down (key : String)
  | up (key : String)
  | quit
  | other
deriving DecidableEq, Repr

/-- The keys of the keypad on the left of a keyboard, four rows of four: `KEY_MAP`. -/
def keyLayout : List (String × Nibble) := [
  ("1", 0x1), ("2", 0x2), ("3", 0x3), ("4", 0xC),
  ("q", 0x4), ("w", 0x5), ("e", 0x6), ("r", 0xD),
  ("a", 0x7), ("s", 0x8), ("d", 0x9), ("f", 0xE),
  ("z", 0xA), ("x", 0x0), ("c", 0xB), ("v", 0xF)]

/-- The lines of the debug display, `debug_lines`; the cycles and the turns are shown as they are
given. -/
def overlayLines (s : Session) (cyclesPerTurn rate : String) (paused : Bool) : List String :=
  [ s.machine.positionLine,
    s.machine.timerLine,
    "Cycles: " ++ s.cycles.shown ++ "  CPF: " ++ cyclesPerTurn,
    "FPS: " ++ rate,
    "Status: " ++ (if s.halted then "HALTED" else if paused then "PAUSED" else "RUNNING"),
    s.machine.registerRow 0,
    s.machine.registerRow 8 ]

/-- The state of a player between turns. -/
structure Player where
  session : Session
  /-- The room the host has for an array. -/
  room : Nat
  /-- The width and the height of the window. -/
  window : Int × Int
  scale : Value
  palette : Palette
  cyclesPerTurn : Value
  running : Bool := true
  paused : Bool := false
  debugging : Bool := false
  /-- Turns since `since`. -/
  turns : Int := 0
  since : Number
  /-- Turns per second, as last measured. -/
  rate : Number

/-- Why playing ends with an error. -/
inductive PlayError
  /-- A scale that cannot be multiplied. -/
  | scaleKind (kind : String)
  /-- A window whose sides are no numbers. -/
  | windowSides
  /-- A window whose sides would be negative. -/
  | negativeWindow
  | largeWindow
  | palette (e : PaletteError)
  | picture (e : PictureError)
  /-- A picture of another size than the window. -/
  | windowSize
  /-- A number of turns per second that is no number. -/
  | rateKind (kind : String)
  | number (e : NumberError)
  | speed (e : SpeedError)
deriving DecidableEq, Repr

/-- The wording of the error. -/
def PlayError.message : PlayError → String
  | .scaleKind kind => "unsupported operand type(s) for *: 'int' and '" ++ kind ++ "'"
  | .windowSides => "size must be two numbers"
  | .negativeWindow => "Cannot set negative sized display mode"
  | .largeWindow => "Window is too large."
  | .palette e => e.message
  | .picture e => e.message
  | .windowSize => "array must match surface dimensions"
  | .rateKind kind => "must be real number, not " ++ kind
  | .number e => e.message
  | .speed e => e.message

/-- What a turn shows. -/
structure Turn where
  messages : List Message := []
  picture : Option Picture := none
  overlay : Option (List String) := none
  failure : Option PlayError := none

namespace Player

/-- The options of a player. -/
structure Setup where
  /-- The room the host has for an array: for all that can be counted, unless it is told. -/
  room : Nat := Capacity.countable
  mode : Mode := .legacy
  scale : Value := .int 8
  cyclesPerTurn : Value := .int 1
  turnsPerSecond : Value := .int 60
  scheme : Value := .text Palette.defaultName

/-- What is said at the start. -/
def controls : Message :=
  ⟨.info, "Controls: ESC=Quit, P=Pause, F5=Reset, +/-=Speed, F1=Debug"⟩

/-- The longest side of a window. -/
def longestSide : Int := 16384

/-- What a number beyond the sides there are is read as. -/
def overflowedSide : Int := -0x80000000

/-- A floating-point number as a side, cut off to a whole number of 32 bits. -/
def sideOfFloat (x : Text.Binary64) : Int :=
  match truncated x with
  | .ok n => if WidthError.fits n then n else overflowedSide
  | .error _ => overflowedSide

/-- A number times a scale as a side of a window: in 32 bits with a sign, of a number of 64
bits. -/
def scaled (n : Int) : Value → Except PlayError Int
  | .int k => if isLong (n * k) then .ok (Int.bmod (n * k) 0x100000000) else .error .windowSides
  | .bool b => .ok (if b then n else 0)
  | .float x => .ok (sideOfFloat ((Text.Binary64.ofInt n).mul x))
  | .text _ | .list _ => .error .windowSides
  | v => .error (.scaleKind v.kind)

/-- The window for a scale. -/
def windowOf (scale : Value) : Except PlayError (Int × Int) := do
  let width ← scaled 64 scale
  let height ← scaled 32 scale
  if width < 0 ∨ height < 0 then throw .negativeWindow
  if longestSide < width ∨ longestSide < height then throw .largeWindow
  return (width, height)

/-- The turns per second a value stands for, which have to be a floating-point number. -/
def rateOf (v : Value) : Except PlayError Number :=
  match Number.ofValue? v with
  | none => .error (.rateKind v.kind)
  | some x =>
    match x.toFloat with
    | .error e => .error (.number e)
    | .ok _ => .ok x

/-- Starts a player on a file, at a time: `run_emulator` up to its loop.  The window is made
first, then the palette is looked up.  A file that cannot be loaded is said so.  The turns per
second are what the loop begins with, so they are only looked at when the controls were said;
an error comes with all that was said before it. -/
def start (setup : Setup) (name : String) (content : Except Storage.FileError Image)
    (now : Number) : Except (List Message × PlayError) (List Message × Option Player) := do
  let window ← (windowOf setup.scale).mapError fun e => ([], e)
  let palette ← (Palette.ofValue setup.scheme).mapError fun e => ([], .palette e)
  let session := Session.fresh (Random.Key.ofSeed 0) setup.mode false
  let loaded := session.perform (.loadFile name content)
  match loaded.failure with
  | some e => return ([⟨.error, "Cannot load " ++ name ++ ": " ++ e.message⟩], none)
  | none =>
    let said := loaded.report.messages ++ [controls]
    let rate ← (rateOf setup.turnsPerSecond).mapError fun e => (said, e)
    let player : Player :=
      { session := loaded.session
        room := setup.room
        window := window
        scale := setup.scale
        palette := palette
        cyclesPerTurn := setup.cyclesPerTurn
        since := now
        rate := rate }
    return (said, some player)

/-- Counts a turn; after a second or more the rate is measured anew.  Times that cannot be
compared count as one. -/
def measure (p : Player) (now : Number) : Player :=
  let turns := p.turns + 1
  match now.sub p.since with
  | .error _ => { p with turns := turns }
  | .ok elapsed =>
    if elapsed.reachesOne then
      { p with rate := .float (elapsed.share turns), turns := 0, since := now }
    else { p with turns := turns }

/-- Gives the session a command whose report is of no interest. -/
def command (p : Player) (c : Command) : Player :=
  { p with session := (p.session.perform c).session }

/-- Changes the number of cycles per turn. -/
def setSpeed (p : Player) (cycles : Except SpeedError Value) :
    Except PlayError (Player × List Message) :=
  match cycles with
  | .error e => .error (.speed e)
  | .ok v =>
    .ok ({ p with cyclesPerTurn := v }, [⟨.info, "Speed: " ++ v.shown ++ " cycles per frame"⟩])

/-- A key that went down. -/
def keyDown (p : Player) (key : String) : Except PlayError (Player × List Message) :=
  match key with
  | "ESCAPE" => .ok ({ p with running := false }, [])
  | "p" => .ok ({ p with paused := !p.paused }, [])
  | "F1" => .ok ({ p with debugging := !p.debugging }, [])
  | "F5" =>
    let done := p.session.perform .reset
    .ok ({ p with session := done.session }, done.report.messages ++ [⟨.info, "Reset"⟩])
  | "EQUALS" => p.setSpeed (Speed.faster p.cyclesPerTurn)
  | "MINUS" => p.setSpeed (Speed.slower p.cyclesPerTurn)
  | other =>
    match keyLayout.lookup other with
    | some k => .ok (p.command (.press k.val), [])
    | none => .ok (p, [])

/-- Takes one event. -/
def handle (p : Player) : HostEvent → Except PlayError (Player × List Message)
  | .quit => .ok ({ p with running := false }, [])
  | .down key => p.keyDown key
  | .up key =>
    match keyLayout.lookup key with
    | some k => .ok (p.command (.release k.val), [])
    | none => .ok (p, [])
  | .other => .ok (p, [])

/-- Takes events in order, up to the first that fails.  What was done and said before it
stays. -/
def handleAll (p : Player) : List HostEvent → Player × List Message × Option PlayError
  | [] => (p, [], none)
  | e :: rest =>
    match p.handle e with
    | .error failure => (p, [], some failure)
    | .ok (p, said) =>
      let (p, more, failure) := p.handleAll rest
      (p, said ++ more, failure)

/-- Does up to `n` cycles and stops at the first that fails, which switches the debug
display on. -/
def cycles (p : Player) : Nat → Player × List Message
  | 0 => (p, [])
  | n + 1 =>
    let done := p.session.perform .step
    let p := { p with session := done.session }
    match done.failure with
    | some _ => ({ p with debugging := true }, done.report.messages)
    | none =>
      let (p, more) := p.cycles n
      (p, done.report.messages ++ more)

/-- The picture of the screen, which has to fill the window: a scale below one makes the
window smaller, but not the picture. -/
def frame (p : Player) : Except PlayError Picture :=
  match Picture.inPalette p.room p.session.machine.screen p.scale p.palette with
  | .error e => .error (.picture e)
  | .ok picture =>
    if p.window = ((picture.width : Int), (picture.height : Int)) then .ok picture
    else .error .windowSize

/-- The lines of the player's debug display, if it is on. -/
def overlay (p : Player) : Except PlayError (Option (List String)) :=
  if p.debugging then
    match p.rate.fixed 1 with
    | .error e => .error (.number e)
    | .ok rate => .ok (some (overlayLines p.session p.cyclesPerTurn.shown rate p.paused))
  else .ok none

/-- Ends playing with an error. -/
def failed (p : Player) (said : List Message) (e : PlayError) : Player × Turn :=
  ({ p with running := false }, { messages := said, failure := some e })

/-- Does the cycles of a turn, unless the player is paused or the machine was stopped. -/
def work (p : Player) : Except PlayError (Player × List Message) :=
  if p.paused || p.session.halted then .ok (p, [])
  else
    match Speed.cycles p.cyclesPerTurn with
    | .error e => .error (.speed e)
    | .ok n => .ok (p.cycles n)

/-- Ends a turn: shows the screen if it was drawn on or the debug display is on. -/
def present (p : Player) (said : List Message) : Player × Turn :=
  if p.session.wantsRedraw || p.debugging then
    match p.frame with
    | .error e => p.failed said e
    | .ok picture =>
      let shown := p.command .acknowledge
      match shown.overlay with
      | .error e => shown.failed said e
      | .ok lines =>
        (shown, { messages := said, picture := some picture, overlay := lines })
  else (p, { messages := said })

/-- One turn of the loop of `run_emulator`. -/
def turn (p : Player) (now : Number) (events : List HostEvent) : Player × Turn :=
  match (p.measure now).handleAll events with
  | (p, said, some e) => p.failed said e
  | (p, said, none) =>
    match p.work with
    | .error e => p.failed said e
    | .ok (p, more) => p.present (said ++ more)

/-- Plays turns until the player stops running or there are no more; each turn comes
with its time. -/
def play (p : Player) : List (Number × List HostEvent) → List Turn
  | [] => []
  | (now, events) :: rest =>
    if p.running then
      let (p, t) := p.turn now events
      t :: p.play rest
    else []

end Player

end ChipEight
