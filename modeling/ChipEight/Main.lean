import ChipEight.Options
import ChipEight.Player

/-!
# The player at a terminal

Plays the file named on the command line.  Every line of the input is a turn: its words
are key names, `+q` for a key that goes down and `-q` for one that goes up, and the end
of the input ends the game.  Turns count as equally long.
-/

namespace ChipEight.Terminal

/-- The event a word of the input stands for. -/
def event (word : String) : HostEvent :=
  match word.toList with
  | '+' :: key => .down (String.ofList key)
  | '-' :: key => .up (String.ofList key)
  | _ => if word == "quit" then .quit else .other

/-- A picture with a sign for every pixel, two for lit ones. -/
def drawing (p : Picture) (on : Color) : String :=
  "\n".intercalate (p.rows.map fun row =>
    String.join (row.map fun c => if c == on then "##" else "  "))

/-- Shows what a turn has to show. -/
def showTurn (logger : Logger) (player : Player) (t : Turn) : IO Unit := do
  let console := ({} : Console).logAll logger t.messages
  for line in console.printed do IO.println line
  if let some p := t.picture then IO.println (drawing p player.palette.on)
  for line in t.overlay.getD [] do IO.println line
  if let some e := t.failure then IO.eprintln e.message

/-- Plays turns until the player stops or the input ends. -/
partial def loop (logger : Logger) (player : Player) (turn : Nat) (fps : Int) : IO Unit := do
  if !player.running then return
  let line ← (← IO.getStdin).getLine
  let events := if line.isEmpty then [.quit] else (line.trimAscii.toString.splitOn " ").map event
  let now := Number.float (Text.Binary64.ofRat (mkRat turn (max 1 fps).toNat))
  let (player, shown) := player.turn now events
  showTurn logger player shown
  loop logger player (turn + 1) fps

/-- Reads a file. -/
def readImage (path : String) : IO (Except Storage.FileError Image) := do
  try
    let bytes ← IO.FS.readBinFile path
    return .ok bytes.data.toList
  catch _ => return .error (.missing path)

/-- Plays a file with options. -/
def play (o : Options) : IO UInt32 := do
  let (some scale, some cycles, some fps, some scheme) :=
      (o.scale, o.cyclesPerFrame, o.fps, o.colorScheme)
    | IO.eprintln "an option has no value"
      return 1
  let setup : Player.Setup :=
    { mode := if o.modern then .modern else .legacy
      scale := .int scale
      cyclesPerTurn := .int cycles
      turnsPerSecond := .int fps
      scheme := .text scheme }
  let (logger, console) := ({} : Console).makeLogger "chip8vm" .info true
  match Player.start setup o.rom (← readImage o.rom) (.whole 0) with
  | .error (said, e) =>
    for line in (console.logAll logger said).printed do IO.println line
    IO.eprintln e.message
    return 1
  | .ok (said, player) =>
    for line in (console.logAll logger said).printed do IO.println line
    if let some p := player then loop logger p 1 fps
    return 0

end ChipEight.Terminal

def main (arguments : List String) : IO UInt32 := do
  match ChipEight.Options.parse arguments with
  | .error e =>
    IO.eprintln e.message
    return UInt32.ofNat e.code
  | .ok o => ChipEight.Terminal.play o
