import ChipEight.ElementFormat
import ChipEight.Progress
import ChipEight.Whole

/-!
# Numbers of cycles

How many cycles a host value asks `run_n_cycles` for, and the bar to show for them.  A number with a
fraction is rounded up.  Both the number of cycles and whether to show a bar have to be
values that can be told apart, so neither can be a list or a record.
-/

namespace ChipEight

/-- A number of cycles with the bar that is shown for them. -/
structure Count where
  cycles : Int
  /-- The number that was asked for, with its fraction. -/
  asked : Number
  plan : Option Progress.Plan

/-- Why a value asks for no number of cycles. -/
inductive CountError
  /-- A value that cannot be told apart from others. -/
  | unhashable (kind shown : String)
  | caption (e : Progress.PlanError)
  | truth
  /-- A value of a kind that is no number. -/
  | kind (name : String)
  | format (e : FormatError)
  /-- An infinite number or none. -/
  | notWhole (e : WholeError)
deriving DecidableEq, Repr

/-- The wording of the error. -/
def CountError.message : CountError → String
  | .unhashable name shown =>
    "Non-hashable static arguments are not supported. An error occurred while trying to hash "
      ++ "an object of type <class '" ++ name ++ "'>, " ++ shown ++ ". The error was:\n"
      ++ "TypeError: unhashable type: '" ++ name ++ "'\n"
  | .caption e => e.message
  | .truth =>
    "iota does not accept dtype bool. Accepted dtypes are subtypes of integer, floating, "
      ++ "complexfloating."
  | .kind name => "must be real number, not " ++ name
  | .format e => e.message
  | .notWhole e => e.message

namespace Count

/-- Refuses values that cannot be told apart. -/
def hashable (v : Value) : Except CountError Unit :=
  match v with
  | .list _ | .record _ => .error (.unhashable v.kind v.literal)
  | _ => .ok ()

/-- How many cycles a value asks for.  A text is taken for the name of an element format
first. -/
def cyclesOf : Value → Except CountError Int
  | .int n => .ok n
  | .bool _ => .error .truth
  | .float x =>
    match x with
    | .finite y => .ok y.toRat.ceil
    | .infinite _ => .error (.notWhole .infinite)
    | .nan => .error (.notWhole .nan)
  | .text s =>
    match ElementFormat.read s with
    | .error e => .error (.format e)
    | .ok _ => .error (.kind (Value.text s).kind)
  | v => .error (.kind v.kind)

/-- The number of cycles and the bar that values ask for.  The caption of the bar is made
before the cycles are counted. -/
def ofValues (cycles showBar : Value) : Except CountError Count := do
  hashable cycles
  hashable showBar
  let plan ←
    if showBar.isOn then
      ((Progress.Plan.ofValues cycles .null .null []).map some).mapError .caption
    else .ok none
  let n ← cyclesOf cycles
  return ⟨n, (Number.ofValue? cycles).getD (.whole n), plan⟩

/-- Checks that so many cycles can be counted, also by the bar. -/
def check (c : Count) : Except WidthError Unit := Progress.checkRun c.plan c.cycles

/-- A whole number of cycles, with a bar or without. -/
def whole (cycles : Int) (showBar : Bool) : Count where
  cycles := cycles
  asked := .whole cycles
  plan := if showBar then some (Progress.Plan.make cycles none none []) else none

/-- Whole numbers and truth values are what they stand for. -/
theorem ofValues_int (cycles : Int) (showBar : Bool) :
    ofValues (.int cycles) (.bool showBar) = .ok (whole cycles showBar) := by
  cases showBar <;> rfl

end Count

end ChipEight
