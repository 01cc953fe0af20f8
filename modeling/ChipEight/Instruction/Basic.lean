import ChipEight.Instruction.Fields

/-!
# Instructions

The instruction set as data.  `execute` and `disassemble` read the words each in its own way:
the one finds the instruction in its tables of handlers (`ChipEight.Instruction.Dispatch`) and
does it (`ChipEight.Machine.Perform`), the other goes through a chain of tests
(`ChipEight.Instruction.Assembly`).
-/

namespace ChipEight

/-- A question about the machine that decides whether the next instruction is skipped. -/
inductive Test
  /-- The register holds this byte. -/
  | equalsByte (x : Nibble) (value : UInt8)
  /-- The register holds another byte. -/
  | differsByte (x : Nibble) (value : UInt8)
  /-- Two registers hold the same byte. -/
  | equals (x y : Nibble)
  /-- Two registers hold different bytes. -/
  | differs (x y : Nibble)
  /-- The key named by the register is held. -/
  | keyDown (x : Nibble)
  /-- The key named by the register is not held. -/
  | keyUp (x : Nibble)
deriving DecidableEq, Repr

/-- The operations on two registers. -/
inductive AluOp
  | copy
  | or
  | and
  | xor
  | add
  | sub
  | shiftRight
  | subReversed
  | shiftLeft
deriving DecidableEq, Repr

/-- What a word can tell the machine to do. -/
inductive Instruction
  /-- Darkens the screen. -/
  | clear
  /-- Continues behind the last open call. -/
  | ret
  /-- Continues at an address. -/
  | jump (target : Address)
  /-- Continues at an address and remembers where it came from. -/
  | call (target : Address)
  /-- Skips the next instruction if the test holds. -/
  | skipIf (test : Test)
  /-- Puts a byte into a register. -/
  | load (x : Nibble) (value : UInt8)
  /-- Adds a byte to a register, without a carry. -/
  | increase (x : Nibble) (value : UInt8)
  /-- Combines two registers. -/
  | alu (op : AluOp) (x y : Nibble)
  /-- Puts an address into the index. -/
  | setIndex (target : Address)
  /-- Continues at an address plus a register; which register depends on the mode. -/
  | jumpOffset (target : Address)
  /-- Puts a masked random byte into a register. -/
  | random (x : Nibble) (mask : UInt8)
  /-- Draws a sprite of some rows at the position held by two registers. -/
  | draw (x y rows : Nibble)
  /-- Reads the delay timer. -/
  | readDelay (x : Nibble)
  /-- Waits for a key and puts its number into a register. -/
  | awaitKey (x : Nibble)
  /-- Sets the delay timer. -/
  | setDelay (x : Nibble)
  /-- Sets the sound timer. -/
  | setSound (x : Nibble)
  /-- Adds a register to the index. -/
  | addIndex (x : Nibble)
  /-- Points the index at the glyph of a digit. -/
  | glyph (x : Nibble)
  /-- Writes the three decimal digits of a register to memory. -/
  | decimal (x : Nibble)
  /-- Writes the registers up to this one to memory. -/
  | store (x : Nibble)
  /-- Reads the registers up to this one from memory. -/
  | restore (x : Nibble)
deriving DecidableEq, Repr

end ChipEight
