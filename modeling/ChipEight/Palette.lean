import ChipEight.Value

/-!
# Palettes

A palette is a pair of colours, one for lit and one for dark cells.  Some have names, by which
`create_color_scheme` finds them.
-/

namespace ChipEight

/-- A colour of three bytes. -/
structure Color where
  red : UInt8
  green : UInt8
  blue : UInt8
deriving DecidableEq, Repr

/-- The colours of lit and of dark cells. -/
structure Palette where
  on : Color
  off : Color
deriving DecidableEq, Repr

/-- Why no palette is found. -/
inductive PaletteError
  /-- A name that no palette has, or how a value that is no name is shown. -/
  | unknown (name : String)
  /-- A value of a kind that cannot be looked up at all. -/
  | notLookedUp (kind : String)
deriving DecidableEq, Repr

namespace Palette

/-- The named palettes. -/
def named : List (String × Palette) := [
  ("classic", ⟨⟨0, 255, 0⟩, ⟨0, 0, 0⟩⟩),
  ("amber", ⟨⟨255, 176, 0⟩, ⟨0, 0, 0⟩⟩),
  ("white", ⟨⟨255, 255, 255⟩, ⟨0, 0, 0⟩⟩),
  ("blue", ⟨⟨0, 255, 255⟩, ⟨0, 0, 64⟩⟩),
  ("retro", ⟨⟨255, 255, 0⟩, ⟨64, 0, 64⟩⟩)]

/-- The palette that is used if none is named. -/
def defaultName : String := "classic"

/-- The palette of a name. -/
def find (name : String) : Except PaletteError Palette :=
  match named.lookup name with
  | some p => .ok p
  | none => .error (.unknown name)

/-- The palette a value names: `create_color_scheme`. -/
def ofValue : Value → Except PaletteError Palette
  | .text name => find name
  | .list items => .error (.notLookedUp (Value.list items).kind)
  | .record fields => .error (.notLookedUp (Value.record fields).kind)
  | v => .error (.unknown v.shown)

end Palette

/-- The wording of the error lists the names there are. -/
def PaletteError.message : PaletteError → String
  | .unknown name =>
    "Unknown color scheme '" ++ name ++ "'. Available: "
      ++ (Value.list (Palette.named.map fun p => .text p.1)).literal
  | .notLookedUp kind => "unhashable type: '" ++ kind ++ "'"

end ChipEight
