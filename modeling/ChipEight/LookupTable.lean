import ChipEight.Capacity
import ChipEight.Ordered
import ChipEight.Whole

/-!
# Lookup tables

A table with an entry for every index of a range, built from the few indices that have
a meaning of their own.  All others get the number of those, which is the first number
no meaning has if meanings are numbered from zero.
-/

namespace ChipEight.LookupTable

/-- What an index stands for. -/
inductive Index
  | place (n : Int)
  /-- Every place, which is what a null and a true value stand for. -/
  | everywhere
  | nowhere
  | invalid
deriving DecidableEq, Repr

/-- What a value stands for as an index. -/
def Index.ofValue : Value → Index
  | .int n => .place n
  | .null => .everywhere
  | .bool b => if b then .everywhere else .nowhere
  | _ => .invalid

/-- Why a table cannot be built. -/
inductive Error
  | capacity (e : CapacityError)
  /-- A size that is no whole number, as it is shown. -/
  | size (shown : String)
  | outOfRange (index : Int) (size : Nat)
  /-- An index that takes 64 bits without a sign. -/
  | tooWide
  | invalidIndex
  /-- A list where one number is expected. -/
  | sequence
  | value (e : WordError)
deriving DecidableEq, Repr

/-- The wording of the error. -/
def Error.message : Error → String
  | .capacity e => e.message
  | .size shown => "expected a sequence of integers or a single integer, got '" ++ shown ++ "'"
  | .outOfRange i count =>
    "index " ++ Text.decimal i ++ " is out of bounds for axis 0 with size " ++ Text.decimal count
  | .tooWide => tooWideMessage
  | .invalidIndex =>
    "only integers, slices (`:`), ellipsis (`...`), numpy.newaxis (`None`) and integer or "
      ++ "boolean arrays are valid indices"
  | .sequence => "setting an array element with a sequence."
  | .value e => e.message

/-- The place of an index; negative indices count from the end. -/
def place? (size : Nat) (index : Int) : Option Nat :=
  if 0 ≤ index ∧ index < size then some index.toNat
  else if index < 0 ∧ -(size : Int) ≤ index then some (index + size).toNat
  else none

/-- The number a value puts into a table: 32 bits with a sign. -/
def entry (v : Value) : Except Error Int :=
  match v with
  | .list _ => .error .sequence
  | v => (v.word .signed32).mapError .value

/-- Gives an index its value.  The index is looked at first. -/
def assign (table : List Int) (index : Value) (value : Value) : Except Error (List Int) :=
  match Index.ofValue index with
  | .invalid => .error .invalidIndex
  | .everywhere => (entry value).map fun n => table.map fun _ => n
  | .nowhere => (entry value).map fun _ => table
  | .place n =>
    if isLong n then
      match place? table.length n with
      | none => .error (.outOfRange n table.length)
      | some i => (entry value).map fun v => table.set i v
    else if 0 ≤ n ∧ n < 0x10000000000000000 then .error .tooWide
    else .error .invalidIndex

/-- A size there is room for; truth values count as one and zero. -/
def sizeOf (room : Nat) (v : Value) : Except Error Nat :=
  match v with
  | .int n => counted n
  | .bool b => counted (if b then 1 else 0)
  | v => .error (.size v.literal)
where
  /-- A whole number as a size: there has to be room for so many numbers. -/
  counted (n : Int) : Except Error Nat :=
    if isLong n then
      match Capacity.check room "int32" 4 [n] with
      | .error e => .error (.capacity e)
      | .ok _ => .ok n.toNat
    else .error (.capacity .dimension)

/-- The key by which indices are told apart: equal numbers are one index. -/
def key (index : Value) : String :=
  match index with
  | .bool b => (Value.int (if b then 1 else 0)).literal
  | .float (.finite x) =>
    if x.toRat.den = 1 then (Value.int x.truncate).literal else (Value.float (.finite x)).literal
  | v => v.literal

/-- The entries with different indices, in order.  An index that is given twice keeps the
later value. -/
def distinct (entries : List (Value × Value)) : List (Value × Value) :=
  (Ordered.putAll [] (entries.map fun e => (key e.1, e))).map (·.2)

/-- Fills a table of a size: every index has the number of the indices until it is given one
of its own. -/
def fill (entries : List (Value × Value)) (size : Nat) : Except Error (List Int) :=
  let different := distinct entries
  different.foldlM (fun table e => assign table e.1 e.2)
    (List.replicate size (different.length : Int))

/-- Builds a table: `dispatch_index`. -/
def build (room : Nat) (entries : List (Value × Value)) (size : Value) :
    Except Error (List Int) := do
  let size ← sizeOf room size
  fill entries size

/-- The size a table has if none is given: the number of its indices. -/
def defaultSize (entries : List (Value × Value)) : Value := .int (distinct entries).length

end ChipEight.LookupTable
