import ChipEight.Machine.Basic
import ChipEight.Nesting
import ChipEight.Whole

/-!
# Selecting keys

The host says which keys are held, as a mask with a cell for every key or as a list
of key numbers.  A list of host values, nested or not, is a mask if all of them are truth
values and a list of numbers otherwise.  A selection that names a key that does not exist, or a mask
of another shape, changes nothing.
-/

namespace ChipEight

/-- Why a selection of keys is refused. -/
inductive KeyError
  /-- A mask that has not one cell for each key. -/
  | maskShape (shape : List Nat)
  /-- Numbers of which some are no keys. -/
  | outOfRange (keys : List Int)
  /-- A single number that is no key. -/
  | noSuchKey (key : Int)
  /-- Lists of unequal lengths beside each other. -/
  | ragged (e : RaggedError)
  /-- A number of more than 64 bits. -/
  | tooWide
  /-- An element that stands for no number. -/
  | notANumber (e : WholeError)
  /-- A value that is no list. -/
  | notAList (kind : String)
  /-- A single value that cannot be compared with a number. -/
  | notCompared (kind : String)
  /-- A single number with a fraction beyond the keys. -/
  | noSuchFraction (x : Text.Binary64)
  /-- A single number with a fraction between the keys. -/
  | fractionIndex (x : Text.Binary64)
  /-- A single truth value. -/
  | truthIndex
deriving DecidableEq, Repr

/-- The wording of a key error. -/
def KeyError.message : KeyError → String
  | .maskShape shape =>
    "Key mask must have shape (16,), got " ++ shapeText shape
  | .outOfRange keys =>
    "Key numbers must be in 0x0-0xF, got " ++ (Value.list (keys.map .int)).literal
  | .noSuchKey key => "Key must be in 0x0-0xF, got " ++ Text.decimal key
  | .ragged e => e.message
  | .tooWide => tooWideMessage
  | .notANumber e => e.message
  | .notAList kind => "'" ++ kind ++ "' object is not iterable"
  | .notCompared kind => "'<=' not supported between instances of 'int' and '" ++ kind ++ "'"
  | .noSuchFraction x => "Key must be in 0x0-0xF, got " ++ Text.shortest x
  | .fractionIndex x =>
    "Indexer must have integer or boolean type, got indexer with type float32 at position 0, "
      ++ "indexer value " ++ Text.shortest x
  | .truthIndex => "JAX arrays do not support boolean scalar indices"

/-- Which keys the host wants to be held. -/
inductive KeySelection
  | mask (shape : List Nat) (cells : List Bool)
  | numbers (keys : List Int)
deriving DecidableEq, Repr

namespace KeySelection

/-- A truth value. -/
def truth? : Value → Option Bool
  | .bool b => some b
  | _ => none

/-- A whole number that is written as one. -/
def written? : Value → Option Int
  | .int n => some n
  | _ => none

/-- Whether a value is a number with a fraction. -/
def isFloat : Value → Bool
  | .float _ => true
  | _ => false

/-- What a number outside 64 signed bits is read as. -/
def overflowed : Int := -0x8000000000000000

/-- A floating-point number with its fraction cut off, if 64 signed bits hold the rest. -/
def cutOff (x : Text.Binary64) : Int :=
  match truncated x with
  | .ok n => if isLong n then n else overflowed
  | .error _ => overflowed

/-- A number read through the floating-point numbers: rounded to one, then cut off. -/
def throughFloat : Value → Option Int
  | .bool b => some (if b then 1 else 0)
  | .int n => some (cutOff (Text.Binary64.ofInt n))
  | .float x => some (cutOff x)
  | _ => none

/-- A number read as 64 bits without a sign and taken with one. -/
def unsigned : Value → Option Int
  | .bool b => some (if b then 1 else 0)
  | .int n => some (Int.bmod n 0x10000000000000000)
  | _ => none

/-- Whether a value is of no kind that elements can share: nothing at all, a record, or a
number of more than 64 bits. -/
def standsAlone : Value → Bool
  | .null => true
  | .record _ => true
  | .int n => decide (n < -0x8000000000000000 ∨ 0x10000000000000000 ≤ n)
  | _ => false

/-- Whether a value is a text. -/
def isText : Value → Bool
  | .text _ => true
  | _ => false

/-- A number that was read, which has to fit into 64 bits with a sign. -/
def fitting (read : Except WholeError Int) : Except KeyError Int :=
  match read with
  | .error e => .error (.notANumber e)
  | .ok n => if isLong n then .ok n else .error .tooWide

/-- An element read by itself. -/
def alone (v : Value) : Except KeyError Int := fitting v.whole

/-- A text as it stands in a row of texts of one width: without the null characters at its
end, which fill up the width. -/
def inRow (s : String) : String :=
  String.ofList (Text.dropTrailing (· == '\x00') s.toList)

/-- How a complaint shows a text that stands in a row of texts. -/
def shownInRow (s : String) : String := "np.str_(" ++ Text.quoted s ++ ")"

/-- An element read from the text it is shown as. -/
def throughText (v : Value) : Except KeyError Int :=
  fitting (readWhole (shownInRow (inRow v.shown)) (inRow v.shown))

/-- An element as one of several numbers.  They share one kind: 64 signed bits if all
fit, 64 bits without a sign if all numbers need that, and floating-point numbers if some
are or if the two kinds are mixed. -/
def sharedKind (elements : List Value) : Value → Option Int :=
  let ints := elements.filterMap written?
  let large := ints.any fun n => decide (0x8000000000000000 ≤ n)
  let small := ints.any fun n => decide (n < 0x8000000000000000)
  if elements.any isFloat || (large && small) then throughFloat else unsigned

/-- The key numbers of a list of elements: read one by one if some stand alone, as texts
if some are texts, and as numbers of one kind otherwise. -/
def numbersOf (elements : List Value) : Except KeyError (List Int) :=
  if elements.any standsAlone then elements.mapM alone
  else if elements.any isText then elements.mapM throughText
  else .ok (elements.filterMap (sharedKind elements))

/-- The selection a list of values stands for, as `set_keys` makes an array of it. -/
def ofValues (items : List Value) : Except KeyError KeySelection :=
  let elements := Value.allLeaves items
  match (Value.list items).shape with
  | .error e => .error (.ragged e)
  | .ok shape =>
    if elements.isEmpty then .ok (.numbers [])
    else
      match elements.mapM truth? with
      | some cells => .ok (.mask shape cells)
      | none => (numbersOf elements).map .numbers

/-- The keypad with exactly the selected keys held. -/
def keypad : KeySelection → Except KeyError Keypad
  | .mask shape cells =>
    if shape = [16] then .ok (Vector.ofFn fun k => cells.getD k.val false)
    else .error (.maskShape shape)
  | .numbers keys =>
    if keys.all fun k => decide (0 ≤ k ∧ k < 16) then
      .ok (Keypad.ofKeys (keys.map fun k => Fin.ofNat 16 k.toNat))
    else .error (.outOfRange keys)

end KeySelection

/-- How the host gives a selection. -/
inductive KeyInput
  | value (v : Value)
  | selection (s : KeySelection)

/-- The selection that was given.  A text is a list of its characters. -/
def KeyInput.read : KeyInput → Except KeyError KeySelection
  | .value (.list items) => KeySelection.ofValues items
  | .value (.text s) => KeySelection.ofValues (s.toList.map fun c => .text (String.ofList [c]))
  | .value v => .error (.notAList v.kind)
  | .selection s => .ok s

namespace Machine

/-- Replaces the held keys: `set_keys`. -/
def hold (m : Machine) (input : KeyInput) : Except KeyError Machine :=
  match input.read with
  | .error e => .error e
  | .ok s => s.keypad.map fun pad => { m with keypad := pad }

/-- The key number a value is.  Only a whole number can be one. -/
def keyOf : Value → Except KeyError Int
  | .int n => .ok n
  | .bool _ => .error .truthIndex
  | .float x =>
    .error (if x.reaches 0 && !x.reaches 16 then .fractionIndex x else .noSuchFraction x)
  | v => .error (.notCompared v.kind)

/-- Moves one key down or up, if `_check_key` passes it: `press_key` and `release_key`. -/
def moveKey (m : Machine) (key : Int) (down : Bool) : Except KeyError Machine :=
  if 0 ≤ key ∧ key < 16 then
    .ok { m with keypad := m.keypad.set (Fin.ofNat 16 key.toNat) down }
  else .error (.noSuchKey key)

end Machine

end ChipEight
