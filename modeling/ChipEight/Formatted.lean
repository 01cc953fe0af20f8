import ChipEight.Number
import ChipEight.Text.Hex

/-!
# Values in a number format

Host values where a number in a certain format is to be written.  Truth values count as
one and zero; a value of a kind the format does not know is refused.
-/

namespace ChipEight

/-- Why a value cannot be written in a format. -/
inductive FormattingError
  /-- A format of this letter on a value of a kind that has formats, but not this one. -/
  | unknown (letter kind : String)
  /-- A value of a kind that has no formats. -/
  | unsupported (kind : String)
  | number (e : NumberError)
deriving DecidableEq, Repr

/-- The wording of the error. -/
def FormattingError.message : FormattingError → String
  | .unknown letter kind =>
    "Unknown format code '" ++ letter ++ "' for object of type '" ++ kind ++ "'"
  | .unsupported kind => "unsupported format string passed to " ++ kind ++ ".__format__"
  | .number e => e.message

namespace Value

/-- What is said of a value that is no number where a format of a letter is asked for. -/
def misformatted (letter : String) : Value → FormattingError
  | .float x => .unknown letter (Value.float x).kind
  | .text s => .unknown letter (Value.text s).kind
  | v => .unsupported v.kind

/-- A whole number in base sixteen, in at least `width` places. -/
def hex (width : Nat) : Value → Except FormattingError String
  | .int n => .ok (Text.hex width n)
  | .bool b => .ok (Text.hex width (if b then 1 else 0))
  | v => .error (v.misformatted "X")

/-- A number with so many places behind the point. -/
def fixed (places : Nat) (v : Value) : Except FormattingError String :=
  match Number.ofValue? v with
  | some x => (x.fixed places).mapError .number
  | none => .error (v.misformatted "f")

end Value

end ChipEight
