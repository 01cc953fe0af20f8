import ChipEight.Instruction.Basic
import ChipEight.Text.Decimal
import ChipEight.Text.Hex

/-!
# Written instructions

A word is written as a mnemonic and a list of operands, which `disassemble` finds by a chain of
tests on its fields.  A word without an instruction is written with the mnemonic `???` and no
operands.
-/

namespace ChipEight

/-- A mnemonic with its operands. -/
structure Assembly where
  mnemonic : String
  operands : List String := []
deriving DecidableEq, Repr

namespace Assembly

/-- The name of a register. -/
def register (x : Nibble) : String := "V" ++ Text.hex 1 x.val

/-- A byte operand. -/
def byte (b : UInt8) : String := "0x" ++ Text.hex 2 b.toNat

/-- An address operand. -/
def address (a : Address) : String := "0x" ++ Text.hex 3 a.val

/-- The written form of a word without an instruction. -/
def unknown : Assembly := ⟨"???", []⟩

/-- The mnemonics of family `8` by the last nibble: `_ALU_MNEMONICS`. -/
def aluMnemonics : List (Nat × String) := [
  (0x0, "LD"), (0x1, "OR"), (0x2, "AND"), (0x3, "XOR"), (0x4, "ADD"),
  (0x5, "SUB"), (0x6, "SHR"), (0x7, "SUBN"), (0xE, "SHL")]

/-- The operands of the loads of family `F` by the last byte. -/
def loads (vx : String) : List (Nat × List String) := [
  (0x07, [vx, "DT"]),
  (0x0A, [vx, "K"]),
  (0x15, ["DT", vx]),
  (0x18, ["ST", vx]),
  (0x29, ["F", vx]),
  (0x33, ["B", vx]),
  (0x55, ["[I]", vx]),
  (0x65, [vx, "[I]"])]

/-- How the words of family `0` are written. -/
def ofSystem (f : Fields) : Assembly :=
  if f.byte.toNat = 0xE0 then ⟨"CLS", []⟩
  else if f.byte.toNat = 0xEE then ⟨"RET", []⟩
  else unknown

/-- How the words of family `8` are written. -/
def ofAlu (f : Fields) : Assembly :=
  match aluMnemonics.lookup f.n.val with
  | some mnemonic => ⟨mnemonic, [register f.x, register f.y]⟩
  | none => unknown

/-- How the words of family `E` are written. -/
def ofKeyTest (f : Fields) : Assembly :=
  if f.byte.toNat = 0x9E then ⟨"SKP", [register f.x]⟩
  else if f.byte.toNat = 0xA1 then ⟨"SKNP", [register f.x]⟩
  else unknown

/-- How the words of family `F` are written. -/
def ofMisc (f : Fields) : Assembly :=
  if f.byte.toNat = 0x1E then ⟨"ADD", ["I", register f.x]⟩
  else
    match (loads (register f.x)).lookup f.byte.toNat with
    | some operands => ⟨"LD", operands⟩
    | none => unknown

/-- How a word with these fields is written. -/
def ofFields (f : Fields) : Assembly :=
  let vx := register f.x
  let vy := register f.y
  let nn := byte f.byte
  let nnn := address f.address
  if f.family.val = 0x0 then ofSystem f
  else if f.family.val = 0x1 then ⟨"JP", [nnn]⟩
  else if f.family.val = 0x2 then ⟨"CALL", [nnn]⟩
  else if f.family.val = 0x3 then ⟨"SE", [vx, nn]⟩
  else if f.family.val = 0x4 then ⟨"SNE", [vx, nn]⟩
  else if f.family.val = 0x5 then ⟨"SE", [vx, vy]⟩
  else if f.family.val = 0x6 then ⟨"LD", [vx, nn]⟩
  else if f.family.val = 0x7 then ⟨"ADD", [vx, nn]⟩
  else if f.family.val = 0x8 then ofAlu f
  else if f.family.val = 0x9 then ⟨"SNE", [vx, vy]⟩
  else if f.family.val = 0xA then ⟨"LD", ["I", nnn]⟩
  else if f.family.val = 0xB then ⟨"JP", ["V0", nnn]⟩
  else if f.family.val = 0xC then ⟨"RND", [vx, nn]⟩
  else if f.family.val = 0xD then ⟨"DRW", [vx, vy, Text.decimal f.n.val]⟩
  else if f.family.val = 0xE then ofKeyTest f
  else ofMisc f

/-- How a word is written: `disassemble`. -/
def ofWord (word : Int) : Assembly := ofFields (Fields.ofWord word)

end Assembly

end ChipEight
