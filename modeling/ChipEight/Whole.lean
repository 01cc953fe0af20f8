import ChipEight.Text.Integer
import ChipEight.Value

/-!
# Whole numbers from host values

The whole number a host value stands for, and the machine integer: truth values count as
one and zero, fractions are cut off, and a text is read.
-/

namespace ChipEight

/-- Why a value stands for no whole number. -/
inductive WholeError
  /-- A value of a kind that is never a number. -/
  | kind (name : String)
  /-- A text that does not read as a number, as it is shown in the complaint. -/
  | illegible (shown : String)
  /-- A text with so many digits, more than are read. -/
  | tooLong (digits : Nat)
  | infinite
  | nan
deriving DecidableEq, Repr

namespace WholeError

/-- The most characters of a text that a complaint shows. -/
def shownLimit : Nat := 200

/-- The complaint about a text. -/
def ofText (shown : String) : WholeError :=
  .illegible (String.ofList (shown.toList.take shownLimit))

/-- The wording of the error. -/
def message : WholeError → String
  | .kind name =>
    "int() argument must be a string, a bytes-like object or a real number, not '" ++ name ++ "'"
  | .illegible shown => "invalid literal for int() with base 10: " ++ shown
  | .tooLong count =>
    "Exceeds the limit (" ++ Text.decimal Text.digitLimit
      ++ " digits) for integer string conversion: value has " ++ Text.decimal count
      ++ " digits; use sys.set_int_max_str_digits() to increase the limit"
  | .infinite => "cannot convert float infinity to integer"
  | .nan => "cannot convert float NaN to integer"

end WholeError

/-- The number a text reads as; a complaint shows the text as `shown`. -/
def readWhole (shown s : String) : Except WholeError Int :=
  match Text.readInt? s with
  | some n => .ok n
  | none =>
    match Text.excess? s with
    | some count => .error (.tooLong count)
    | none => .error (.ofText shown)

/-- The whole number next to a floating-point number towards zero. -/
def truncated : Text.Binary64 → Except WholeError Int
  | .finite x => .ok x.truncate
  | .infinite _ => .error .infinite
  | .nan => .error .nan

/-- The whole number a value stands for. -/
def Value.whole : Value → Except WholeError Int
  | .bool b => .ok (if b then 1 else 0)
  | .int n => .ok n
  | .float x => truncated x
  | .text s => readWhole (Text.quoted s) s
  | v => .error (.kind v.kind)

/-! ## Machine integers -/

/-- A kind of machine integer with its least and its greatest number. -/
structure WordFormat where
  name : String
  least : Int
  greatest : Int
deriving DecidableEq, Repr

namespace WordFormat

/-- Bytes. -/
def byte : WordFormat := ⟨"uint8", 0, 255⟩

/-- Integers of 32 bits with a sign. -/
def signed32 : WordFormat := ⟨"int32", -0x80000000, 0x7FFFFFFF⟩

/-- Whether it holds a number. -/
def holds (f : WordFormat) (n : Int) : Bool := decide (f.least ≤ n ∧ n ≤ f.greatest)

end WordFormat

/-- Whether a number has 64 bits with a sign. -/
def isLong (n : Int) : Bool := decide (-0x8000000000000000 ≤ n ∧ n < 0x8000000000000000)

/-- Why a value stands for no machine integer. -/
inductive WordError
  | notWhole (e : WholeError)
  /-- A number of more than 64 bits. -/
  | tooWide
  | outOfRange (n : Int) (format : String)
deriving DecidableEq, Repr

/-- What is said of a number of more than 64 bits. -/
def tooWideMessage : String := "Python int too large to convert to C long"

/-- The wording of the error. -/
def WordError.message : WordError → String
  | .notWhole e => e.message
  | .tooWide => tooWideMessage
  | .outOfRange n format =>
    "Python integer " ++ Text.decimal n ++ " out of bounds for " ++ format

/-- A number as a machine integer; numbers of more than 64 bits are refused as such. -/
def WordFormat.fit (f : WordFormat) (n : Int) : Except WordError Int :=
  if f.holds n then .ok n
  else if isLong n then .error (.outOfRange n f.name)
  else .error .tooWide

/-- The machine integer a value stands for. -/
def Value.word (f : WordFormat) (v : Value) : Except WordError Int :=
  match v.whole with
  | .error e => .error (.notWhole e)
  | .ok n => f.fit n

/-- The byte a value stands for. -/
def Value.byte (v : Value) : Except WordError UInt8 :=
  (v.word .byte).map fun n => UInt8.ofNat n.toNat

/-- The bytes of a row of values, up to the first that stands for none. -/
def bytesOf : List Value → Except WordError (List UInt8)
  | [] => .ok []
  | v :: rest =>
    match v.byte with
    | .error e => .error e
    | .ok b => (bytesOf rest).map (b :: ·)

end ChipEight
