/-!
# The layout of the machine

The sizes of the machine that are not in the types of its parts, and the picture of the sixteen
built-in glyphs.

* memory holds `memorySize` bytes, glyphs from `fontStart`, programs from `programStart`;
* the screen is 64 by 32 cells, stored row by row;
* a glyph is five bytes tall and starts at a multiple of five, which is why a
  digit is turned into its address by multiplication alone.
-/

namespace ChipEight.Layout

/-- Bytes of memory. -/
def memorySize : Nat := 4096

/-- Where the glyphs are. -/
def fontStart : Nat := 0

/-- Where programs are loaded and where they start. -/
def programStart : Nat := 0x200

/-- The longest program image that fits behind `programStart`. -/
def imageCapacity : Nat := memorySize - programStart

/-- Where a cell of the screen is stored. -/
def cell (x : Fin 64) (y : Fin 32) : Fin 2048 := ⟨x.val + 64 * y.val, by omega⟩

/-- The glyphs of the digits `0` to `F`, five rows each, the highest bit leftmost. -/
def glyphs : List UInt8 := [
  0xF0, 0x90, 0x90, 0x90, 0xF0,
  0x20, 0x60, 0x20, 0x20, 0x70,
  0xF0, 0x10, 0xF0, 0x80, 0xF0,
  0xF0, 0x10, 0xF0, 0x10, 0xF0,
  0x90, 0x90, 0xF0, 0x10, 0x10,
  0xF0, 0x80, 0xF0, 0x10, 0xF0,
  0xF0, 0x80, 0xF0, 0x90, 0xF0,
  0xF0, 0x10, 0x20, 0x40, 0x40,
  0xF0, 0x90, 0xF0, 0x90, 0xF0,
  0xF0, 0x90, 0xF0, 0x10, 0xF0,
  0xF0, 0x90, 0xF0, 0x90, 0x90,
  0xE0, 0x90, 0xE0, 0x90, 0xE0,
  0xF0, 0x80, 0x80, 0x80, 0xF0,
  0xE0, 0x90, 0x90, 0x90, 0xE0,
  0xF0, 0x80, 0xF0, 0x80, 0xF0,
  0xF0, 0x80, 0xF0, 0x80, 0x80]

end ChipEight.Layout
