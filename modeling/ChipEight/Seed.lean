import ChipEight.ElementFormat
import ChipEight.Nesting
import ChipEight.Random
import ChipEight.Whole

/-!
# Seeds

A seed, which `PRNGKey` is given, is a whole number of 64 bits with a sign; truth values count as
one and zero.  What is said of any other value depends on what it would be as an array: a text is
taken for the name of an element format, a list for the array itself.
-/

namespace ChipEight

/-- Why a value is no seed. -/
inductive SeedError
  /-- A number of more than 64 bits. -/
  | tooWide
  /-- A number with a fraction. -/
  | fraction
  /-- A text that names the format of truth values. -/
  | truth
  | null
  | ragged (e : RaggedError)
  | shaped (shape : List Nat)
  | format (e : FormatError)
  /-- A text that names a format of numbers and is none itself. -/
  | illegible (elements : ElementClass) (text : String)
  /-- A value that is no array of numbers, with what its elements are called. -/
  | notNumeric (shown elements : String)
  /-- A record whose first entry describes no element. -/
  | entry
deriving DecidableEq, Repr

/-- The wording of the error. -/
def SeedError.message : SeedError → String
  | .tooWide => tooWideMessage
  | .fraction => "PRNG key seed must be an integer; got JitTracer(~float32[])"
  | .truth => "PRNG key seed must be an integer; got JitTracer(bool[])"
  | .null => "None is not a valid value for jnp.array"
  | .ragged e => e.message
  | .shaped shape =>
    "PRNGKey accepts a scalar seed, but was given an array of shape " ++ shapeText shape
      ++ " != (). Use jax.vmap for batching"
  | .format e => e.message
  | .illegible .fraction text => "could not convert string to float: " ++ Text.quoted text
  | .illegible .complex _ => "complex() arg is a malformed string"
  | .illegible _ text => "invalid literal for int() with base 10: " ++ Text.quoted text
  | .notNumeric shown elements =>
    "Value '" ++ shown ++ "' with dtype " ++ elements
      ++ " is not a valid JAX array type. Only arrays of numeric types are supported by JAX."
  | .entry => "entry not a 2- or 3- tuple"

namespace Seed

/-- What is said of a text that names no format of numbers: it is shown without the null
characters at its end, but they count for its width. -/
def unreadable (s : String) : SeedError :=
  .notNumeric (String.ofList (Text.dropTrailing (· == '\x00') s.toList))
    ("<U" ++ Text.decimal (max 1 s.length : Nat))

/-- What is said of a text. -/
def ofText (s : String) : SeedError :=
  match ElementFormat.read s with
  | .error (.unknown _) => unreadable s
  | .error e => .format e
  | .ok .other => unreadable s
  | .ok .truth => .truth
  | .ok elements => .illegible elements s

/-- What is said of a record: its first entry decides. -/
def ofRecord (fields : List (String × Value)) : SeedError :=
  match fields with
  | (_, .text _) :: _ => .entry
  | (_, .list _) :: _ => .entry
  | (_, .record _) :: _ => .entry
  | _ => .notNumeric (Value.record fields).literal "object"

/-- The seed a value stands for. -/
def ofValue : Value → Except SeedError Int
  | .int n => if Random.Key.isSeed n then .ok n else .error .tooWide
  | .bool b => .ok (if b then 1 else 0)
  | .float _ => .error .fraction
  | .null => .error .null
  | .text s => .error (ofText s)
  | .list items =>
    match (Value.list items).shape with
    | .ok shape => .error (.shaped shape)
    | .error e => .error (.ragged e)
  | .record fields => .error (ofRecord fields)

/-- The first random key of a value. -/
def key (v : Value) : Except SeedError Random.Key := (ofValue v).map Random.Key.ofSeed

end Seed

end ChipEight
