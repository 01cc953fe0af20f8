import ChipEight.Machine.Basic
import ChipEight.Nesting
import ChipEight.Storage
import ChipEight.Whole

/-!
# Program images

A program image is a run of bytes that is copied behind `programStart`.  Images may
also be given as a list of host values; every element has to be a byte then, which is
checked before the length is, and lists inside the list are refused.
-/

namespace ChipEight

/-- The bytes of a program. -/
abbrev Image := List UInt8

/-- An image that does not fit into memory: `ImageTooLargeError`. -/
structure OversizedImage where
  size : Int
  limit : Int := 3584
deriving DecidableEq, Repr

/-- The wording of the error from the texts of its parts. -/
def OversizedImage.wording (size limit : String) : String :=
  "Program image is " ++ size ++ " bytes, limit is " ++ limit ++ " bytes"

/-- The wording of the error. -/
def OversizedImage.message (e : OversizedImage) : String :=
  OversizedImage.wording (Text.decimal e.size) (Text.decimal e.limit)

/-- Why an image is refused. -/
inductive ImageError
  | tooLarge (e : OversizedImage)
  | notAByte (e : WordError)
  /-- Lists of unequal lengths beside each other. -/
  | ragged (e : RaggedError)
  /-- Lists inside the list. -/
  | nested (shape : List Nat)
deriving DecidableEq, Repr

/-- The wording of an image error. -/
def ImageError.message : ImageError → String
  | .tooLarge e => e.message
  | .notAByte e => e.message
  | .ragged e => e.message
  | .nested shape =>
    "Cannot broadcast to shape with fewer dimensions: arr_shape=" ++ shapeText shape
      ++ " shape=" ++ shapeText (shape.take 1)

/-- A program as the host gives it. -/
inductive Program
  | bytes (image : Image)
  | elements (items : List Value)

namespace Program

/-- The bytes of a list of values.  The first list counts as the length of nested ones. -/
def bytesOfList (items : List Value) : Except ImageError Image :=
  match (Value.list items).shape with
  | .error e => .error (.ragged e)
  | .ok shape =>
    match bytesOf (Value.allLeaves items) with
    | .error e => .error (.notAByte e)
    | .ok image =>
      if shape.length ≤ 1 then .ok image
      else if Layout.imageCapacity < items.length then .error (.tooLarge { size := items.length })
      else .error (.nested shape)

/-- The image of a program. -/
def image : Program → Except ImageError Image
  | .bytes b => .ok b
  | .elements items => bytesOfList items

end Program

namespace Machine

/-- The machine with an image in its memory.  What lies behind the image stays. -/
def withImage (m : Machine) (image : Image) : Machine :=
  { m with memory := m.memory.writeAll Layout.programStart image }

/-- Puts an image into memory if it fits: `load_program` on bytes, and `load_rom`. -/
def load (m : Machine) (image : Image) : Except OversizedImage Machine :=
  if image.length ≤ Layout.imageCapacity then .ok (m.withImage image)
  else .error { size := image.length }

/-- Puts a program into memory: `load_program`. -/
def loadFrom (m : Machine) (p : Program) : Except ImageError (Machine × Image) :=
  match p.image with
  | .error e => .error e
  | .ok image =>
    match m.load image with
    | .error e => .error (.tooLarge e)
    | .ok loaded => .ok (loaded, image)

end Machine

end ChipEight
