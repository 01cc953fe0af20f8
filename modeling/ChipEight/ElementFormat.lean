import ChipEight.Text.Decimal
import ChipEight.Text.Integer
import ChipEight.Text.Quoted

/-!
# Names of element formats

A text where a number is expected is taken for the name of a format of array elements: a
letter, a letter with a size, a word, or a row of such names with counts in front of them.
Whether it is one, and if so of which class, decides what is said about it.
-/

namespace ChipEight

/-- What is wrong with the counts in front of a name. -/
inductive CountsError
  | blank
  | leadingZeros
  | tooLong (digits : Nat)
  | unmatched
  | unclosed
  | missingComma
  | malformed
deriving DecidableEq, Repr

/-- The wording of the error, with the line it is in. -/
def CountsError.message : CountsError → String
  | .blank => "invalid syntax (<unknown>, line 0)"
  | .leadingZeros =>
    "leading zeros in decimal integer literals are not permitted; use an 0o prefix for octal "
      ++ "integers (<unknown>, line 1)"
  | .tooLong count =>
    "Exceeds the limit (" ++ Text.decimal Text.digitLimit
      ++ " digits) for integer string conversion: value has " ++ Text.decimal count
      ++ " digits; use sys.set_int_max_str_digits() to increase the limit - Consider "
      ++ "hexadecimal for huge integer literals to avoid decimal conversion limits. "
      ++ "(<unknown>, line 1)"
  | .unmatched => "unmatched ')' (<unknown>, line 1)"
  | .unclosed => "'(' was never closed (<unknown>, line 1)"
  | .missingComma => "invalid syntax. Perhaps you forgot a comma? (<unknown>, line 1)"
  | .malformed => "invalid syntax (<unknown>, line 1)"

/-- Why a text names no format. -/
inductive FormatError
  | unknown (name : String)
  /-- An item of a row that is followed by neither a comma nor the end. -/
  | item (number : Nat) (text : String)
  | byteOrder (first second : Char)
  | counts (e : CountsError)
deriving DecidableEq, Repr

/-- The wording of the error. -/
def FormatError.message : FormatError → String
  | .unknown name => "data type " ++ Text.quoted name ++ " not understood"
  | .item number text =>
    "format number " ++ Text.decimal number ++ " of \"" ++ text ++ "\" is not recognized"
  | .byteOrder first second =>
    "inconsistent byte-order specification " ++ first.toString ++ " and " ++ second.toString
  | .counts e => e.message

/-- What the elements of a format are. -/
inductive ElementClass
  | truth
  | whole
  | fraction
  | complex
  | other
deriving DecidableEq, Repr

namespace ElementFormat

/-! ## Single names -/

/-- The formats that have a word for their name. -/
def words : List (ElementClass × List String) := [
  (.truth, ["bool", "bool_"]),
  (.whole, ["int", "int_", "int8", "int16", "int32", "int64", "uint", "uint8", "uint16", "uint32",
    "uint64", "byte", "ubyte", "short", "ushort", "intc", "uintc", "intp", "uintp", "long", "ulong",
    "longlong", "ulonglong"]),
  (.fraction, ["float", "float16", "float32", "float64", "float128", "half", "single", "double",
    "longdouble"]),
  (.complex, ["complex", "complex64", "complex128", "complex256", "csingle", "cdouble",
    "clongdouble"]),
  (.other, ["object", "object_", "str", "str_", "bytes", "bytes_", "void", "datetime64",
    "timedelta64"])]

/-- The formats that have a letter for their name. -/
def letters : List (ElementClass × List Char) := [
  (.truth, ['?']),
  (.whole, ['b', 'B', 'h', 'H', 'i', 'I', 'l', 'L', 'q', 'Q', 'p', 'P', 'n', 'N']),
  (.fraction, ['e', 'f', 'd', 'g']),
  (.complex, ['F', 'D', 'G']),
  (.other, ['S', 'a', 'c', 'U', 'V', 'O', 'M', 'm'])]

/-- The letters that take a size, with the sizes there are. -/
def sizes : List (ElementClass × Char × List Nat) := [
  (.truth, 'b', [1]), (.whole, 'i', [1, 2, 4, 8]), (.whole, 'u', [1, 2, 4, 8]),
  (.fraction, 'f', [2, 4, 8, 16]), (.complex, 'c', [8, 16, 32]),
  (.other, 'O', [4, 8]), (.other, 'm', [8]), (.other, 'M', [8])]

/-- The letters that take any size. -/
def freelySized : List Char := ['S', 'a', 'U', 'V']

/-- A number written with plain digits. -/
def plainNat? (cs : List Char) : Option Nat :=
  if cs ≠ [] ∧ cs.all Char.isDigit then
    some (Text.ofDigits (cs.map fun c => c.toNat - '0'.toNat))
  else none

/-- Whether a character tells the order of bytes. -/
def isOrder (c : Char) : Bool := c == '<' || c == '>' || c == '|' || c == '='

/-- The class of the format a single name stands for, without its byte order. -/
def ofBareName? (cs : List Char) : Option ElementClass :=
  let word := words.find? fun w => w.2.contains (String.ofList cs)
  match cs with
  | [] => none
  | [c] => (letters.find? fun l => l.2.contains c).map (·.1)
  | c :: size =>
    match plainNat? size, word with
    | _, some w => some w.1
    | some n, none =>
      if freelySized.contains c then some .other
      else (sizes.find? fun s => s.2.1 == c && s.2.2.contains n).map (·.1)
    | none, none => none

/-- The class of the format a single name stands for. -/
def ofName (cs : List Char) : Except FormatError ElementClass :=
  let bare := match cs with
    | c :: rest => if isOrder c then rest else cs
    | [] => []
  match ofBareName? bare with
  | some c => .ok c
  | none => .error (.unknown (String.ofList cs))

/-! ## Rows -/

/-- Whether a text is a row: it starts with a count, or has a comma outside of brackets. -/
def isRow (cs : List Char) : Bool :=
  let body := match cs with
    | c :: rest => if isOrder c && rest ≠ [] then rest else cs
    | [] => []
  (cs.head?.map Char.isDigit).getD false || (body.head?.map Char.isDigit).getD false
    || ['(', ')'].isPrefixOf cs || (body.length > 2 && ['(', ')'].isPrefixOf body)
    || commaOutside 0 (cs.drop 1)
where
  /-- Whether a comma stands outside of square brackets. -/
  commaOutside (depth : Int) : List Char → Bool
    | [] => false
    | c :: rest =>
      if c = ',' ∧ depth = 0 then true
      else commaOutside (if c = '[' then depth + 1 else if c = ']' then depth - 1 else depth) rest

/-- An item of a row. -/
structure Item where
  firstOrder : Option Char
  counts : List Char
  secondOrder : Option Char
  name : List Char

/-- Takes the order of bytes off a text. -/
def takeOrder (cs : List Char) : Option Char × List Char :=
  match cs with
  | c :: rest => if isOrder c then (some c, rest) else (none, cs)
  | [] => (none, [])

/-- Takes what satisfies `p` off a text. -/
def takeRun (p : Char → Bool) (cs : List Char) : List Char × List Char :=
  (cs.takeWhile p, cs.dropWhile p)

/-- Takes a character off a text if it stands there. -/
def takeChar (c : Char) (cs : List Char) : List Char × List Char :=
  if cs.head? = some c then ([c], cs.drop 1) else ([], cs)

/-- Takes a part in square brackets off a text if a whole one stands there. -/
def takeBracket (cs : List Char) : List Char × List Char :=
  let inner := (cs.drop 1).takeWhile fun c => c.isAlphanum || c == ',' || c == '.'
  let rest := cs.drop (inner.length + 1)
  if cs.head? = some '[' ∧ rest.head? = some ']' then ('[' :: inner ++ [']'], rest.drop 1)
  else ([], cs)

/-- Takes an item off a text. -/
def takeItem (cs : List Char) : Item × List Char :=
  let (firstOrder, cs) := takeOrder cs
  let (a, cs) := takeRun (· == ' ') cs
  let (b, cs) := takeChar '(' cs
  let (c, cs) := takeRun (fun c => c == ' ' || c == ',' || c.isDigit) cs
  let (d, cs) := takeChar ')' cs
  let (e, cs) := takeRun (· == ' ') cs
  let (secondOrder, cs) := takeOrder cs
  let (name, cs) := takeRun (fun c => c.isAlphanum || c == '.' || c == '?') cs
  let (bracket, cs) := takeBracket cs
  (⟨firstOrder, a ++ b ++ c ++ d ++ e, secondOrder, name ++ bracket⟩, cs)

/-- What stands behind a comma with blanks around it. -/
def behindComma? (cs : List Char) : Option (List Char) :=
  match cs.dropWhile Text.isBlank with
  | ',' :: rest => some (rest.dropWhile Text.isBlank)
  | _ => none

/-- The runs of digits in a text of digits, spaces, commas and parentheses. -/
def digitRuns (cs : List Char) : List (List Char) :=
  (cs.splitBy fun a b => a.isDigit == b.isDigit).filter fun run =>
    (run.head?.map Char.isDigit).getD false

/-- Whether counts alternate with commas, the last of which may be missing.  `ready` says
that a count may follow. -/
def alternates (ready : Bool) (runs : List (List Char)) : Bool :=
  match runs with
  | [] => true
  | run :: rest =>
    if run = [','] then !ready && alternates true rest
    else ready && alternates false rest

/-- The counts and the commas of a text. -/
def countTokens (cs : List Char) : List (List Char) :=
  ((cs.filter fun c => c ≠ '(' ∧ c ≠ ')').splitBy fun a b => a.isDigit && b.isDigit).filter
    fun run => run ≠ [' ']

/-- Whether two counts or two commas follow each other, or a comma comes first. -/
def misplacedComma (tokens : List (List Char)) : Bool :=
  tokens.head? = some [','] || (tokens.zip (tokens.drop 1)).any fun p => p.1 = [','] && p.2 = [',']

/-- Reads the counts in front of a name. -/
def checkCounts (cs : List Char) : Except CountsError Unit :=
  let tokens := countTokens cs
  let opened := cs.contains '('
  let closed := cs.contains ')'
  let zeros (run : List Char) : Bool := run.head? = some '0' && run.any (· ≠ '0')
  let long (run : List Char) : Bool :=
    run.any (· ≠ '0') && decide (Text.digitLimit < run.length)
  if cs.all (· == ' ') then .error .blank
  else if (digitRuns cs).any zeros then .error .leadingZeros
  else
    match (digitRuns cs).find? long with
    | some run => .error (.tooLong run.length)
    | none =>
      if closed && !opened then .error .unmatched
      else if misplacedComma tokens then .error .malformed
      else if opened && !closed then .error .unclosed
      else if alternates true tokens then .ok ()
      else .error (if opened then .missingComma else .malformed)

/-- The name of an item with its order of bytes, if that is not the native one. -/
def Item.fullName (i : Item) : Except FormatError (List Char) :=
  let native (c : Char) : Char := if c = '=' then '<' else c
  let order : Except FormatError (Option Char) :=
    match i.firstOrder, i.secondOrder with
    | a, none => .ok a
    | none, b => .ok b
    | some a, some b =>
      if native a = native b then .ok (some (native a))
      else .error (.byteOrder (native a) (native b))
  order.map fun o => if o = some '>' then '>' :: i.name else i.name

/-- The names of the items of a row with whether a count stands in front of them. -/
def readRow (whole : String) (fuel number : Nat) (cs : List Char) :
    Except FormatError (List (List Char × Bool)) :=
  match fuel, cs with
  | 0, _ => .ok []
  | _, [] => .ok []
  | fuel + 1, cs => do
    let (item, rest) := takeItem cs
    let next ←
      if rest.all Text.isBlank then .ok []
      else
        match behindComma? rest with
        | some more => .ok more
        | none => .error (.item number whole)
    let name ← item.fullName
    if item.counts ≠ [] then (checkCounts item.counts).mapError .counts
    let others ← readRow whole fuel (number + 1) next
    return (name, item.counts ≠ []) :: others

/-- The class of the format a text names. -/
def read (s : String) : Except FormatError ElementClass :=
  let cs := s.toList
  if isRow cs then do
    let items ← readRow s (cs.length + 1) 1 cs
    let classes ← items.mapM fun i => ofName i.1
    match items, classes with
    | [(_, false)], [c] => return if cs.contains ',' then .other else c
    | _, _ => return .other
  else ofName cs

end ElementFormat

end ChipEight
