import ChipEight.Nesting
import ChipEight.Text.FixedPoint

/-!
# Room for arrays

What is checked before an array is made: its extent along each axis, and how many bytes it
takes.  An array of more bytes than can be counted is refused at once, one of more bytes
than there is room for with its size in words.  How many bytes there is room for depends on the
host, so it is a parameter of all that makes arrays.
-/

namespace ChipEight

/-- Why an array cannot be made. -/
inductive CapacityError
  /-- An extent of more than 64 bits. -/
  | dimension
  | negative
  | uncountable
  | noRoom (bytes : Nat) (shape : List Nat) (format : String)
deriving DecidableEq, Repr

namespace Capacity

/-- The units of sizes, each 1024 times the one before. -/
def units : List String := ["bytes", "KiB", "MiB", "GiB", "TiB", "PiB", "EiB"]

/-- A size with three digits and a point, or with all digits in front of the point if there
are more. -/
def threeDigits (x : Text.Binary64) : String :=
  let fits (places : Nat) : Bool := decide ((Text.fixed places x).length ≤ 4)
  if fits 2 then Text.fixed 2 x
  else if fits 1 then Text.fixed 1 x
  else Text.fixed 0 x ++ "."

/-- A number of bytes in the greatest unit that does not exceed it. -/
def sizeText (bytes : Nat) : String :=
  let unit := min (Nat.log2 bytes / 10) 6
  threeDigits (Text.Binary64.ofRatio false bytes (Nat.pow 1024 unit)) ++ " " ++ units.getD unit ""

end Capacity

/-- The wording of the error. -/
def CapacityError.message : CapacityError → String
  | .dimension => "Maximum allowed dimension exceeded"
  | .negative => "negative dimensions are not allowed"
  | .uncountable =>
    "array is too big; `arr.size * arr.dtype.itemsize` is larger than the maximum "
      ++ "possible size."
  | .noRoom bytes shape format =>
    "Unable to allocate " ++ Capacity.sizeText bytes ++ " for an array with shape "
      ++ shapeText shape ++ " and data type " ++ format

namespace Capacity

/-- The bytes that can be counted. -/
def countable : Nat := 0x8000000000000000

/-- How many bytes an array takes whose elements take so many each.  The axes are looked
at in order. -/
def bytesFor (each : Nat) : List Int → Except CapacityError Nat
  | [] => .ok each
  | extent :: rest =>
    if extent < 0 then .error .negative
    else if countable ≤ each * extent.toNat then .error .uncountable
    else bytesFor (if extent = 0 then each else each * extent.toNat) rest

/-- Checks that an array can be made by a host with room for so many bytes. -/
def check (room : Nat) (format : String) (each : Nat) (shape : List Int) :
    Except CapacityError Unit :=
  match bytesFor each shape with
  | .error e => .error e
  | .ok bytes =>
    if bytes ≤ room || shape.contains 0 then .ok ()
    else .error (.noRoom bytes (shape.map Int.toNat) format)

end Capacity

end ChipEight
