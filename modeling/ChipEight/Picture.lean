import ChipEight.Capacity
import ChipEight.Machine.Basic
import ChipEight.Palette
import ChipEight.Storage
import ChipEight.Text.Lower
import ChipEight.Whole

/-!
# Pictures of the screen

The screen as rows of coloured pixels, every cell blown up to a square, and the files
such pictures can be saved to: `display_to_rgb` and `save_frame`.  The pixel in row `r` and
column `c` of a picture of scale `k` shows the cell in row `r / k` and column `c / k`.

Lit and dark cells are painted in a colour each, or every cell of the kind in a colour of
its own.
-/

namespace ChipEight

/-- A picture as its rows. -/
structure Picture where
  width : Nat
  height : Nat
  rows : List (List Color)
deriving DecidableEq, Repr

/-- Why a picture cannot be made or saved. -/
inductive PictureError
  /-- A screen with another number of cells. -/
  | cellCount (found : Nat)
  /-- Rows of cells or colours of unequal lengths. -/
  | ragged (e : RaggedError)
  /-- A part of a colour that is no byte. -/
  | notAByte (e : WordError)
  /-- Colours of a shape that so many cells cannot be painted in. -/
  | colorShape (shape : List Nat) (cells : Nat)
  | palette (e : PaletteError)
  /-- A scale that cannot be compared with a number. -/
  | scaleKind (kind : String)
  /-- A scale above one that stands for no whole number. -/
  | scaleNotWhole (e : WholeError)
  /-- A scale of more than 64 bits. -/
  | scaleTooWide
  | capacity (e : CapacityError)
  | unknownExtension (extension : String)
  | file (e : Storage.FileError)
deriving DecidableEq, Repr

/-- A shape in a complaint about colours, without spaces. -/
def colorShapeText (shape : List Nat) : String :=
  match shape with
  | [one] => "(" ++ Text.decimal one ++ ",)"
  | _ => "(" ++ ",".intercalate (shape.map fun (n : Nat) => Text.decimal n) ++ ")"

/-- The wording of a picture error. -/
def PictureError.message : PictureError → String
  | .cellCount found => "Expected 2048 display cells, got " ++ Text.decimal found
  | .ragged e => e.message
  | .notAByte e => e.message
  | .colorShape shape cells =>
    "shape mismatch: value array of shape " ++ colorShapeText shape
      ++ " could not be broadcast to indexing result of shape " ++ colorShapeText [cells, 3]
  | .palette e => e.message
  | .scaleKind kind => "'>' not supported between instances of '" ++ kind ++ "' and 'int'"
  | .scaleNotWhole e => e.message
  | .scaleTooWide => tooWideMessage
  | .capacity e => e.message
  | .unknownExtension x => "unknown file extension: " ++ x
  | .file e => e.message

/-! ## Paint -/

/-- What cells of one kind are painted in. -/
inductive Paint
  /-- All of them in one colour. -/
  | uniform (color : Color)
  /-- Each of them in its own colour, in the order of the cells. -/
  | each (colors : List Color)
deriving DecidableEq, Repr

namespace Paint

/-- The colour of the cell of a number; black if there is none. -/
def color (p : Paint) (number : Nat) : Color :=
  match p with
  | .uniform color => color
  | .each colors => colors.getD number ⟨0, 0, 0⟩

/-- The colours of bytes that come in groups of one or three.  A single byte stands for
all three parts. -/
def colorsOf (grouped : Bool) : List UInt8 → List Color
  | r :: g :: b :: rest =>
    if grouped then ⟨r, g, b⟩ :: colorsOf grouped rest
    else ⟨r, r, r⟩ :: colorsOf grouped (g :: b :: rest)
  | grey :: rest => ⟨grey, grey, grey⟩ :: colorsOf grouped rest
  | [] => []

/-- A shape without the axes of length one in front of its last two. -/
def core : List Nat → List Nat
  | 1 :: a :: b :: rest => core (a :: b :: rest)
  | shape => shape

/-- The paint a value stands for that is given to a number of cells: a byte, three bytes, or
a row of either with one item for all cells or with one for each. -/
def ofValue (cells : Nat) (v : Value) : Except PictureError Paint :=
  match v.shape with
  | .error e => .error (.ragged e)
  | .ok shape =>
    match bytesOf v.leaves with
    | .error e => .error (.notAByte e)
    | .ok bytes =>
      let (rows, parts) := match core shape with
        | [] => (1, 1)
        | [parts] => (1, parts)
        | [rows, parts] => (rows, parts)
        | _ => (0, 0)
      let colors := colorsOf (decide (parts = 3)) bytes
      if parts ≠ 1 ∧ parts ≠ 3 then .error (.colorShape shape cells)
      else if rows = cells then .ok (.each colors)
      else
        match rows, colors with
        | 1, color :: _ => .ok (.uniform color)
        | _, _ => .error (.colorShape shape cells)

end Paint

namespace Picture

/-- The side of the square a cell becomes: no scale below one. -/
def side (scale : Int) : Nat := max 1 scale.toNat

/-- Every element `k` times in a row. -/
def spread {α : Type} (k : Nat) (items : List α) : List α := items.flatMap (List.replicate k)

/-- The picture of cells of these colours. -/
def ofColors (cells : Vector Color 2048) (scale : Int) : Picture :=
  let k := side scale
  let row (y : Fin 32) : List Color :=
    spread k ((List.finRange 64).map fun x => cells.get (Layout.cell x y))
  { width := 64 * k
    height := 32 * k
    rows := spread k ((List.finRange 32).map row) }

/-- The picture of a screen. -/
def ofScreen (screen : Screen) (scale : Int) (p : Palette) : Picture :=
  ofColors (screen.map fun lit => if lit then p.on else p.off) scale

/-- The colours of cells, the first lit and the first dark one of which have these
numbers. -/
def paintFrom (on off : Paint) (lit dark : Nat) : List Bool → List Color
  | [] => []
  | true :: rest => on.color lit :: paintFrom on off (lit + 1) dark rest
  | false :: rest => off.color dark :: paintFrom on off lit (dark + 1) rest

theorem length_paintFrom (on off : Paint) (lit dark : Nat) (cells : List Bool) :
    (paintFrom on off lit dark cells).length = cells.length := by
  induction cells generalizing lit dark with
  | nil => rfl
  | cons c rest ih => cases c <;> simp [paintFrom, ih]

/-- The colours of the cells of a screen. -/
def paint (screen : Screen) (on off : Paint) : Vector Color 2048 :=
  ⟨(paintFrom on off 0 0 screen.toList).toArray, by simp [length_paintFrom]⟩

/-! ## Scales -/

/-- A number of pixels as it is counted: in 64 bits with a sign. -/
def pixels (n : Int) : Int := Int.bmod n 0x10000000000000000

/-- Checks that there is room for the pixels before they are blown up. -/
def checkFrame (room : Nat) : Except CapacityError Unit :=
  Capacity.check room "uint8" 1 [32, 64, 3]

/-- Checks that there is room for a picture of a scale: for the cells blown up along one
axis, and then along both.  There is none for a number of pixels that is counted as
another. -/
def checkRoom (room : Nat) (scale : Int) : Except CapacityError Unit :=
  if scale ≤ 1 then .ok ()
  else do
    let height := pixels (32 * scale)
    Capacity.check room "uint8" 1 [height, 64, 3]
    if height ≠ 32 * scale then throw .uncountable
    Capacity.check room "uint8" 1 [height, pixels (64 * scale), 3]

/-- The scale a value stands for.  A scale above one is cut off to a whole number of
64 bits, for which there has to be room. -/
def scaleOf (room : Nat) (v : Value) : Except PictureError Int :=
  match v with
  | .int n => fitting n
  | .bool b => .ok (if b then 1 else 0)
  | .float x =>
    if x.exceeds 1 then
      match truncated x with
      | .error e => .error (.scaleNotWhole e)
      | .ok n => fitting n
    else .ok 1
  | v => .error (.scaleKind v.kind)
where
  /-- A whole number as a scale. -/
  fitting (n : Int) : Except PictureError Int :=
    if 0x8000000000000000 ≤ n then .error .scaleTooWide
    else
      match checkRoom room n with
      | .error e => .error (.capacity e)
      | .ok _ => .ok n

/-! ## Cells of the host -/

/-- How the host gives the cells of a screen: in a row, or as lists of values of any
shape. -/
inductive Cells
  | row (cells : Array Bool)
  | lists (v : Value)

/-- The cells in a row. -/
def Cells.read : Cells → Except PictureError (Array Bool)
  | .row cells => .ok cells
  | .lists v =>
    match v.shape with
    | .error e => .error (.ragged e)
    | .ok _ => .ok (v.leaves.map Value.isOn).toArray

/-- Cells as a screen, if there are as many as a screen has. -/
def screenOf (cells : Cells) : Except PictureError Screen := do
  let row ← cells.read
  if h : row.size = 2048 then return ⟨row, h⟩ else throw (.cellCount row.size)

/-- The picture of cells in colours given as values: `display_to_rgb`.  Lit cells are painted
first, and the scale is looked at when all of them are. -/
def ofCells (room : Nat) (cells : Cells) (scale on off : Value) :
    Except PictureError Picture := do
  let screen ← screenOf cells
  (checkFrame room).mapError .capacity
  let lit := (screen.toArray.filter id).size
  let onPaint ← Paint.ofValue lit on
  let offPaint ← Paint.ofValue (2048 - lit) off
  let scale ← scaleOf room scale
  return ofColors (paint screen onPaint offPaint) scale

/-- The picture of a screen in a palette. -/
def inPalette (room : Nat) (screen : Screen) (scale : Value) (p : Palette) :
    Except PictureError Picture := do
  (checkFrame room).mapError .capacity
  let scale ← scaleOf room scale
  return ofScreen screen scale p

/-! ## Files -/

/-- The kinds of file a picture can be saved to without loss. -/
inductive Format
  | png
  | bmp
  | ppm
deriving DecidableEq, Repr

namespace Format

/-- The name of a format. -/
def name : Format → String
  | .png => "PNG"
  | .bmp => "BMP"
  | .ppm => "PPM"

/-- The format of an extension in lower case. -/
def ofExtension? (extension : String) : Option Format :=
  if extension ∈ [".png", ".apng"] then some .png
  else if extension = ".bmp" then some .bmp
  else if extension ∈ [".ppm", ".pgm", ".pbm", ".pnm", ".pfm"] then some .ppm
  else none

end Format

/-- Makes the picture of cells for a file: `save_frame`.  The palette is looked up first, then
the cells are counted and the scale is read, then the extension of the path as it was
given, and only then the file is made. -/
def save (room : Nat) (directory : Storage.Directory) (path given : String) (cells : Cells)
    (scale scheme : Value) : Except PictureError (Picture × Format) := do
  let palette ← (Palette.ofValue scheme).mapError .palette
  let screen ← screenOf cells
  let picture ← inPalette room screen scale palette
  let extension := String.ofList (Text.lower (Storage.extension given.toList))
  match Format.ofExtension? extension with
  | none => throw (.unknownExtension extension)
  | some format =>
    (directory.create path given).mapError .file
    return (picture, format)

end Picture

end ChipEight
