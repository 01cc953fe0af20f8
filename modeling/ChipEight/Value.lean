import ChipEight.Text.Decimal
import ChipEight.Text.Quoted
import ChipEight.Text.Shortest

/-!
# Host values

The values a host hands over where the machine has no type of its own: the settings
of a run, the elements of a program image given as a list, a selection of keys.
They are written like literals; a text that stands alone is written bare.
-/

namespace ChipEight

/-- A value of the host. -/
inductive Value
  | null
  | bool (b : Bool)
  | int (n : Int)
  | float (x : Text.Binary64)
  | text (s : String)
  | list (items : List Value)
  | record (fields : List (String × Value))
deriving Repr, Inhabited

namespace Value

mutual
/-- A value as a literal. -/
def literal : Value → String
  | .null => "None"
  | .bool b => if b then "True" else "False"
  | .int n => Text.decimal n
  | .float x => Text.shortest x
  | .text s => Text.quoted s
  | .list items => "[" ++ ", ".intercalate (literals items) ++ "]"
  | .record fields => "\x7b" ++ ", ".intercalate (entries fields) ++ "\x7d"

/-- The literals of a list of values. -/
def literals : List Value → List String
  | [] => []
  | v :: rest => v.literal :: literals rest

/-- The entries of a record. -/
def entries : List (String × Value) → List String
  | [] => []
  | (k, v) :: rest => (Text.quoted k ++ ": " ++ v.literal) :: entries rest
end

/-- What kind of value it is, as complaints call it. -/
def kind : Value → String
  | .null => "NoneType"
  | .bool _ => "bool"
  | .int _ => "int"
  | .float _ => "float"
  | .text _ => "str"
  | .list _ => "list"
  | .record _ => "dict"

/-- A value as it is shown: text bare, all else as a literal. -/
def shown : Value → String
  | .text s => s
  | v => v.literal

/-- A row of values between parentheses; a single one is followed by a comma. -/
def tuple (items : List String) : String :=
  match items with
  | [one] => "(" ++ one ++ ",)"
  | _ => "(" ++ ", ".intercalate items ++ ")"

/-- The text of a message that is given as a row of values: nothing for none, the value
itself for one, and a tuple for more. -/
def message : List Value → String
  | [] => ""
  | [v] => v.shown
  | vs => tuple (literals vs)

/-- Whether a setting counts as switched on. -/
def isOn : Value → Bool
  | .null => false
  | .bool b => b
  | .int n => n != 0
  | .float x => !x.isZero
  | .text s => s != ""
  | .list items => !items.isEmpty
  | .record fields => !fields.isEmpty

end Value

end ChipEight
