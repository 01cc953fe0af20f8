import ChipEight.Instruction.Basic
import ChipEight.LookupTable

/-!
# Dispatch

How `execute` finds the instruction of a word.  `switch` picks one of sixteen handlers by the
first nibble.  The handlers of the families `0`, `E` and `F` look the last byte up in a table that
`dispatch_index` has built, and the one of family `8` goes by the last nibble.
-/

namespace ChipEight.Instruction

/-- What a handler takes the fields of a word for: an instruction, or none. -/
abbrev Handler := Fields → Option Instruction

/-- The handler of undefined words: `execute_unknown`. -/
def unknown : Handler := fun _ => none

/-- The handler at a place; a place beyond the ends stands for the nearest one: `switch`. -/
def switch (place : Int) (handlers : List Handler) : Handler :=
  handlers.getD (min place.toNat (handlers.length - 1)) unknown

/-! ## Families that go by the last byte -/

/-- Bytes with their places in a row. -/
def placed (bytes : List Nat) : List (Value × Value) :=
  bytes.zipIdx.map fun e => (.int e.1, .int e.2)

/-- The table that sends bytes to their places in a row, and every other byte behind its end. -/
def placesOf (bytes : List Nat) : List Int :=
  match LookupTable.fill (placed bytes) 256 with
  | .ok table => table
  | .error _ => []

/-- The handler that looks the last byte up in a table of places; behind all handlers is the one
of undefined words. -/
def byByte (table : List Int) (handlers : List (Nat × Handler)) : Handler := fun f =>
  switch (table.getD f.byte.toNat 0) (handlers.map Prod.snd ++ [unknown]) f

/-- The handlers of family `0` by their bytes. -/
def systemHandlers : List (Nat × Handler) := [
  (0xE0, fun _ => some .clear),
  (0xEE, fun _ => some .ret)]

/-- The places of their bytes: `_SYSTEM_INDEX`. -/
def systemTable : List Int := placesOf (systemHandlers.map Prod.fst)

/-- The handlers of family `E` by their bytes. -/
def keyHandlers : List (Nat × Handler) := [
  (0x9E, fun f => some (.skipIf (.keyDown f.x))),
  (0xA1, fun f => some (.skipIf (.keyUp f.x)))]

/-- The places of their bytes: `_KEY_INDEX`. -/
def keyTable : List Int := placesOf (keyHandlers.map Prod.fst)

/-- The handlers of family `F` by their bytes: `_MISC_HANDLERS`. -/
def miscHandlers : List (Nat × Handler) := [
  (0x07, fun f => some (.readDelay f.x)),
  (0x0A, fun f => some (.awaitKey f.x)),
  (0x15, fun f => some (.setDelay f.x)),
  (0x18, fun f => some (.setSound f.x)),
  (0x1E, fun f => some (.addIndex f.x)),
  (0x29, fun f => some (.glyph f.x)),
  (0x33, fun f => some (.decimal f.x)),
  (0x55, fun f => some (.store f.x)),
  (0x65, fun f => some (.restore f.x))]

/-- The places of their bytes: `_MISC_INDEX`. -/
def miscTable : List Int := placesOf (miscHandlers.map Prod.fst)

/-! ## All families -/

/-- The handler of an operation on two registers. -/
def combine (op : AluOp) : Handler := fun f => some (.alu op f.x f.y)

/-- The handlers of family `8` by the last nibble: `_ALU_HANDLERS`. -/
def aluHandlers : List Handler := [
  combine .copy, combine .or, combine .and, combine .xor,
  combine .add, combine .sub, combine .shiftRight, combine .subReversed,
  unknown, unknown, unknown, unknown,
  unknown, unknown, combine .shiftLeft, unknown]

/-- The handlers of all families by the first nibble. -/
def families : List Handler := [
  byByte systemTable systemHandlers,
  fun f => some (.jump f.address),
  fun f => some (.call f.address),
  fun f => some (.skipIf (.equalsByte f.x f.byte)),
  fun f => some (.skipIf (.differsByte f.x f.byte)),
  fun f => some (.skipIf (.equals f.x f.y)),
  fun f => some (.load f.x f.byte),
  fun f => some (.increase f.x f.byte),
  fun f => switch f.n.val aluHandlers f,
  fun f => some (.skipIf (.differs f.x f.y)),
  fun f => some (.setIndex f.address),
  fun f => some (.jumpOffset f.address),
  fun f => some (.random f.x f.byte),
  fun f => some (.draw f.x f.y f.n),
  byByte keyTable keyHandlers,
  byByte miscTable miscHandlers]

/-- Finds the instruction with these fields, if there is one. -/
def dispatch : Handler := fun f => switch f.family.val families f

end ChipEight.Instruction
