import ChipEight.Text.Blank

/-!
# Reading whole numbers

A whole number may be surrounded by white space and may have a sign; its digits may
be of any script, and single underscores may stand between them.
-/

namespace ChipEight.Text

/-- The zeros of the decimal scripts; the nine digits behind each are its other digits. -/
def zeros : List Nat := [
  0x30, 0x660, 0x6F0, 0x7C0, 0x966, 0x9E6, 0xA66, 0xAE6, 0xB66, 0xBE6, 0xC66, 0xCE6, 0xD66,
  0xDE6, 0xE50, 0xED0, 0xF20, 0x1040, 0x1090, 0x17E0, 0x1810, 0x1946, 0x19D0, 0x1A80, 0x1A90,
  0x1B50, 0x1BB0, 0x1C40, 0x1C50, 0xA620, 0xA8D0, 0xA900, 0xA9D0, 0xA9F0, 0xAA50, 0xABF0, 0xFF10,
  0x104A0, 0x10D30, 0x11066, 0x110F0, 0x11136, 0x111D0, 0x112F0, 0x11450, 0x114D0, 0x11650,
  0x116C0, 0x11730, 0x118E0, 0x11950, 0x11C50, 0x11D50, 0x11DA0, 0x16A60, 0x16AC0, 0x16B50,
  0x1D7CE, 0x1D7D8, 0x1D7E2, 0x1D7EC, 0x1D7F6, 0x1E140, 0x1E2F0, 0x1E950, 0x1FBF0]

/-- The value of a digit of any script. -/
def digitValue? (c : Char) : Option Nat :=
  (zeros.find? fun z => decide (z ≤ c.toNat ∧ c.toNat < z + 10)).map (c.toNat - ·)

/-- The most digits a number may have. -/
def digitLimit : Nat := 4300

/-- The values of a run of digits in which single underscores may stand between two. -/
def readDigits? : List Char → Option (List Nat)
  | [] => none
  | [c] => (digitValue? c).map ([·])
  | c :: '_' :: rest =>
    match digitValue? c with
    | some d => (readDigits? rest).map (d :: ·)
    | none => none
  | c :: rest =>
    match digitValue? c with
    | some d => (readDigits? rest).map (d :: ·)
    | none => none

/-- The number a list of decimal digits stands for. -/
def ofDigits (ds : List Nat) : Nat := ds.foldl (fun n d => 10 * n + d) 0

/-- Reads a number without a sign. -/
def readNat? (cs : List Char) : Option Nat :=
  match readDigits? cs with
  | some ds => if ds.length ≤ digitLimit then some (ofDigits ds) else none
  | none => none

/-- Reads a number that may have a sign. -/
def readSigned? : List Char → Option Int
  | '-' :: cs => (readNat? cs).map fun n => -(n : Int)
  | '+' :: cs => (readNat? cs).map fun n => (n : Int)
  | cs => (readNat? cs).map fun n => (n : Int)

/-- The run of digits and underscores a text starts with. -/
def digitRun (cs : List Char) : List Char :=
  cs.takeWhile fun c => c == '_' || (digitValue? c).isSome

/-- Whether single underscores stand between digits only. -/
def isNumeral (run : List Char) : Bool := (readDigits? run).isSome

/-- How many digits a text starts with behind its sign, if it starts with more than a number
may have; what follows them does not count. -/
def excess? (s : String) : Option Nat :=
  let cs := trimSpace s.toList
  let run := digitRun (if cs.head? = some '-' ∨ cs.head? = some '+' then cs.drop 1 else cs)
  let count := (run.filter (· ≠ '_')).length
  if isNumeral run ∧ digitLimit < count then some count else none

/-- Reads a whole number. -/
def readInt? (s : String) : Option Int := readSigned? (trimSpace s.toList)

end ChipEight.Text
