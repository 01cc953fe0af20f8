import ChipEight.Text.Integer
import ChipEight.Text.Quoted
import ChipEight.Palette

/-!
# The command line

The command line of the player, `parse_args`: the file to play, and options in any order before and
behind it.  An option may be cut short as long as only one option starts that way, and
its value may follow it or be joined to it by `=`.  Behind `--` everything is a value.
-/

namespace ChipEight

/-- The options a player is started with.  An option that was given without a value has
none, not even its default. -/
structure Options where
  rom : String
  modern : Bool := false
  scale : Option Int := some 8
  cyclesPerFrame : Option Int := some 1
  fps : Option Int := some 60
  colorScheme : Option String := some Palette.defaultName
deriving DecidableEq, Repr

namespace Options

/-- The options there are. -/
inductive Flag
  | help
  | modern
  | scale
  | cyclesPerFrame
  | fps
  | colorScheme
deriving DecidableEq, Repr

namespace Flag

/-- How options are written, in the order in which they are listed. -/
def spellings : List (String × Flag) := [
  ("-h", .help), ("--help", .help), ("--modern", .modern), ("--scale", .scale),
  ("--cycles-per-frame", .cyclesPerFrame), ("--fps", .fps), ("--color-scheme", .colorScheme)]

/-- The name of an option in a complaint. -/
def title : Flag → String
  | .help => "-h/--help"
  | .modern => "--modern"
  | .scale => "--scale"
  | .cyclesPerFrame => "--cycles-per-frame"
  | .fps => "--fps"
  | .colorScheme => "--color-scheme"

/-- Whether an option has a value. -/
def takesValue : Flag → Bool
  | .help | .modern => false
  | _ => true

end Flag

/-- What is wrong with a command line. -/
inductive UsageError
  | missingFile
  | unrecognized (arguments : List String)
  | invalidInt (flag : Flag) (text : String)
  | missingValue (flag : Flag)
  | needlessValue (flag : Flag) (text : String)
  | ambiguous (argument : String) (candidates : List String)
deriving DecidableEq, Repr

/-- The wording of a usage error. -/
def UsageError.message : UsageError → String
  | .missingFile => "the following arguments are required: rom"
  | .unrecognized arguments => "unrecognized arguments: " ++ " ".intercalate arguments
  | .invalidInt flag text =>
    "argument " ++ flag.title ++ ": invalid int value: " ++ Text.quoted text
  | .missingValue flag => "argument " ++ flag.title ++ ": expected one argument"
  | .needlessValue flag text =>
    "argument " ++ flag.title ++ ": ignored explicit argument " ++ Text.quoted text
  | .ambiguous argument candidates =>
    "ambiguous option: " ++ argument ++ " could match " ++ ", ".intercalate candidates

/-- Why a command line starts no player. -/
inductive Exit
  /-- Help was asked for. -/
  | help
  | usage (e : UsageError)
deriving DecidableEq, Repr

namespace Exit

/-- The exit code. -/
def code : Exit → Nat
  | .help => 0
  | .usage _ => 2

/-- What is written to the error output at last. -/
def message : Exit → String
  | .help => ""
  | .usage e => "main.py: error: " ++ e.message

/-- The last line of what is written to the error output. -/
def lastLine (e : Exit) : String := String.ofList (Text.lastLine e.message.toList)

end Exit

/-- What an argument is, by its looks alone. -/
inductive Token
  | value (text : String)
  /-- The first `--`. -/
  | separator
  /-- An option, with what is joined to it: behind an `=`, or directly to a short one. -/
  | option (flag : Flag) (short : Bool) (joined : Option (List Char))
  /-- An argument that looks like an option and is none. -/
  | unknown (text : String)
deriving DecidableEq, Repr

/-- Splits at the first `=`. -/
def splitEquals (cs : List Char) : List Char × Option (List Char) :=
  match cs.dropWhile (· ≠ '=') with
  | [] => (cs, none)
  | _ :: rest => (cs.takeWhile (· ≠ '='), some rest)

/-- The option of an exact spelling. -/
def spelled? (cs : List Char) : Option (String × Flag) :=
  Flag.spellings.find? fun s => s.1.toList == cs

/-- Whether a text is a negative number, with or without a fraction. -/
def isNegativeNumber (cs : List Char) : Bool :=
  let isDigit (c : Char) : Bool := (Text.digitValue? c).isSome
  match cs with
  | '-' :: rest =>
    let body := if rest.getLast? = some '\n' then rest.dropLast else rest
    match body.dropWhile isDigit with
    | [] => !body.isEmpty
    | '.' :: part => !part.isEmpty && part.all isDigit
    | _ => false
  | _ => false

/-- The options an argument with two dashes can be short for. -/
def candidates (stem : List Char) : List (String × Flag) :=
  Flag.spellings.filter fun s => stem.isPrefixOf s.1.toList

/-- An argument that is no exact option: negative numbers and texts with a space are
values, all else looks like an option. -/
def guess (argument : String) : Token :=
  if isNegativeNumber argument.toList || argument.toList.contains ' ' then .value argument
  else .unknown argument

/-- Tells what an argument in front of `--` is. -/
def classify (argument : String) : Except UsageError Token :=
  let cs := argument.toList
  let (stem, joined) := splitEquals cs
  match cs with
  | [] => .ok (.value argument)
  | ['-'] => .ok (.value argument)
  | '-' :: second :: rest =>
    match spelled? cs, joined, spelled? stem with
    | some s, _, _ => .ok (.option s.2 (decide (second ≠ '-')) none)
    | none, some _, some s => .ok (.option s.2 (decide (second ≠ '-')) joined)
    | none, _, _ =>
      if second = '-' then
        match candidates stem with
        | [] => .ok (guess argument)
        | [s] => .ok (.option s.2 false joined)
        | several => .error (.ambiguous argument (several.map (·.1)))
      else
        match spelled? ['-', second] with
        | some s => .ok (.option s.2 true (some rest))
        | none => .ok (guess argument)
  | _ => .ok (.value argument)

/-- Tells what all arguments are. -/
def tokens : List String → Except UsageError (List Token)
  | [] => .ok []
  | "--" :: rest => .ok (.separator :: rest.map .value)
  | argument :: rest =>
    match classify argument with
    | .error e => .error e
    | .ok t => (tokens rest).map (t :: ·)

/-- What was read so far: the options, the file if there was one, and what is left over. -/
structure Reading where
  options : Options := { rom := "" }
  found : Bool := false
  extras : List String := []

/-- Gives an option its value, or takes the value away. -/
def assign (p : Reading) (flag : Flag) (value : Option String) : Except Exit Reading :=
  let number (set : Option Int → Options) : Except Exit Reading :=
    match value with
    | none => .ok { p with options := set none }
    | some text =>
      match Text.readInt? text with
      | some n => .ok { p with options := set (some n) }
      | none => .error (.usage (.invalidInt flag text))
  match flag with
  | .help => .error .help
  | .modern => .ok { p with options := { p.options with modern := true } }
  | .scale => number fun n => { p.options with scale := n }
  | .cyclesPerFrame => number fun n => { p.options with cyclesPerFrame := n }
  | .fps => number fun n => { p.options with fps := n }
  | .colorScheme => .ok { p with options := { p.options with colorScheme := value } }

/-- Letters joined to a short option without a value are short options themselves, of
which only the one for help exists.  What is left behind them is a complaint. -/
def cluster (flag : Flag) (letters : List Char) : Exit :=
  match letters, letters.dropWhile (· == 'h') with
  | _ :: _, [] => .help
  | _, rest => .usage (.needlessValue flag (String.ofList rest))

/-- An option with a joined value.  The separator is no value, wherever it stands. -/
def assignJoined (p : Reading) (flag : Flag) (short : Bool) (text : List Char) :
    Except Exit Reading :=
  if flag.takesValue then
    assign p flag (if text = ['-', '-'] then none else some (String.ofList text))
  else if short then .error (cluster flag text)
  else .error (.usage (.needlessValue flag (String.ofList text)))

/-- The text of a token that is not taken. -/
def Token.leftOver : Token → List String
  | .value s => [s]
  | .separator => ["--"]
  | .unknown s => [s]
  | .option _ _ _ => []

/-- Whether an option is still to come. -/
def Token.isOption : Token → Bool
  | .option _ _ _ => true
  | .unknown _ => true
  | _ => false

/-- Takes a value as the file if there was none, else it is left over. -/
def takeValue (p : Reading) (s : String) : Reading :=
  if p.found then { p with extras := p.extras ++ [s] }
  else { p with options := { p.options with rom := s }, found := true }

/-- Takes what stands behind the last option: the file with the separators around it, and
what is left over. -/
def takeRest (p : Reading) (rest : List Token) : Reading :=
  let keep (p : Reading) (rest : List Token) : Reading :=
    { p with extras := p.extras ++ rest.flatMap Token.leftOver }
  if p.found then keep p rest
  else
    match rest with
    | .value s :: .separator :: more => keep (takeValue p s) more
    | .value s :: more => keep (takeValue p s) more
    | .separator :: .value s :: more => keep (takeValue p s) more
    | other => keep p other

/-- Takes tokens from left to right. -/
def take (p : Reading) : List Token → Except Exit Reading
  | [] => .ok p
  | .unknown s :: rest => take { p with extras := p.extras ++ [s] } rest
  | .option flag short (some j) :: rest =>
    match assignJoined p flag short j with
    | .error e => .error e
    | .ok p => take p rest
  | .option flag _ none :: rest =>
    if flag.takesValue then
      match rest with
      | .value s :: more =>
        match assign p flag (some s) with
        | .error e => .error e
        | .ok p => take p more
      | _ => .error (.usage (.missingValue flag))
    else
      match assign p flag none with
      | .error e => .error e
      | .ok p => take p rest
  | .value s :: rest =>
    if rest.any Token.isOption then take (takeValue p s) rest
    else .ok (takeRest p (.value s :: rest))
  | .separator :: rest => .ok (takeRest p (.separator :: rest))

/-- Reads a command line: `parse_args`. -/
def parse (arguments : List String) : Except Exit Options := do
  let ts ← (tokens arguments).mapError .usage
  let p ← take {} ts
  if !p.found then throw (.usage .missingFile)
  if p.extras ≠ [] then throw (.usage (.unrecognized p.extras))
  return p.options

end Options

end ChipEight
