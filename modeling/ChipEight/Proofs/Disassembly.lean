import ChipEight.Proofs.Decoders
import ChipEight.Machine.Perform
import ChipEight.Proofs.Numerals
import Mathlib.Data.List.Basic

/-!
# Written instructions can be read again

`disassemble` writes an instruction as a mnemonic and texts of operands.  Mnemonics are shared, `LD`
by eleven kinds of instructions, so what tells these apart is the form of their operands.  It does:
the written form can be read, and the instruction comes back whole.

* `Operand` — what an operand stands for; `Operand.text` and `Operand.read` — how it is
  written and read.
* `Instruction.operands` — the operands of an instruction; with its mnemonic they tell which
  instruction it is (`Instruction.ofOperands?_operands`).
* `Assembly.instruction?` — the instruction of a written form.
* `Assembly.instruction?_ofWord` — a word and its written form have the same instruction, so
  that words with the same written form are done alike.
-/

namespace ChipEight

open Text (hexChars signedValue signedValue_hexChars length_digits_of_lt length_digits_le_succ)

/-! ## Operands -/

/-- What an operand stands for. -/
inductive Operand
  | register (x : Nibble)
  | byte (b : UInt8)
  | address (a : Address)
  /-- The rows of a sprite. -/
  | rows (n : Nibble)
  /-- The index, as a register. -/
  | index
  | delay
  | sound
  | key
  | glyph
  /-- The decimal digits of a register. -/
  | decimals
  /-- Memory at the index. -/
  | memory
deriving DecidableEq, Repr

namespace Operand

/-- How an operand is written. -/
def text : Operand → String
  | .register x => Assembly.register x
  | .byte b => Assembly.byte b
  | .address a => Assembly.address a
  | .rows n => Text.decimal n.val
  | .index => "I"
  | .delay => "DT"
  | .sound => "ST"
  | .key => "K"
  | .glyph => "F"
  | .decimals => "B"
  | .memory => "[I]"

/-- Reads an operand.  A byte has two digits and an address has three; a number without a
mark in front is decimal. -/
def readChars : List Char → Operand
  | ['I'] => .index
  | ['D', 'T'] => .delay
  | ['S', 'T'] => .sound
  | ['K'] => .key
  | ['F'] => .glyph
  | ['B'] => .decimals
  | ['[', 'I', ']'] => .memory
  | 'V' :: cs => .register (Fin.ofNat 16 (signedValue 16 cs).toNat)
  | ['0', 'x', c, d] => .byte (UInt8.ofNat (signedValue 16 [c, d]).toNat)
  | ['0', 'x', c, d, e] => .address (Fin.ofNat 4096 (signedValue 16 [c, d, e]).toNat)
  | cs => .rows (Fin.ofNat 16 (signedValue 10 cs).toNat)

/-- Reads an operand from its text. -/
def read (s : String) : Operand := readChars s.toList

/-! ### Numbers as operands -/

theorem length_hexChars_two (b : UInt8) : (hexChars 2 b.toNat).length = 2 := by
  have hb := b.toNat_lt
  have h1 : (Text.digits 16 (b.toNat / 16)).length = 1 := length_digits_of_lt (by omega)
  have h2 := length_digits_le_succ 16 b.toNat
  rw [hexChars, if_neg (by omega), Text.length_padLeft, Int.natAbs_natCast]
  omega

theorem length_hexChars_three (a : Address) : (hexChars 3 a.val).length = 3 := by
  have ha := a.isLt
  have h1 : (Text.digits 16 (a.val / 16 / 16)).length = 1 := length_digits_of_lt (by omega)
  have h2 := length_digits_le_succ 16 (a.val / 16)
  have h3 := length_digits_le_succ 16 a.val
  rw [hexChars, if_neg (by omega), Text.length_padLeft, Int.natAbs_natCast]
  omega

theorem toList_register (x : Nibble) :
    (Assembly.register x).toList = 'V' :: hexChars 1 x.val := by
  simp [Assembly.register, Text.hex]

theorem toList_byte (b : UInt8) :
    (Assembly.byte b).toList = '0' :: 'x' :: hexChars 2 b.toNat := by
  simp [Assembly.byte, Text.hex]

theorem toList_address (a : Address) :
    (Assembly.address a).toList = '0' :: 'x' :: hexChars 3 a.val := by
  simp [Assembly.address, Text.hex]

theorem read_register (x : Nibble) : read (Assembly.register x) = .register x := by
  rw [read, toList_register, readChars, signedValue_hexChars 1 x.val]
  simp

theorem read_byte (b : UInt8) : read (Assembly.byte b) = .byte b := by
  have hvalue := signedValue_hexChars 2 b.toNat
  have hchars := toList_byte b
  obtain ⟨c, d, hcd⟩ := List.length_eq_two.1 (length_hexChars_two b)
  rw [hcd] at hvalue hchars
  rw [read, hchars, readChars, hvalue]
  simp

theorem read_address (a : Address) : read (Assembly.address a) = .address a := by
  have hvalue := signedValue_hexChars 3 a.val
  have hchars := toList_address a
  obtain ⟨c, d, e, hcde⟩ := List.length_eq_three.1 (length_hexChars_three a)
  rw [hcde] at hvalue hchars
  rw [read, hchars, readChars, hvalue]
  simp

theorem read_rows (n : Nibble) : read (Text.decimal n.val) = .rows n := by
  revert n
  decide +kernel

/-- **Every operand can be read again.** -/
theorem read_text (o : Operand) : read o.text = o := by
  cases o with
  | register x => exact read_register x
  | byte b => exact read_byte b
  | address a => exact read_address a
  | rows n => exact read_rows n
  | _ => rfl

end Operand

/-! ## Instructions -/

/-- The operands of a test. -/
def Test.operands : Test → List Operand
  | .equalsByte x b => [.register x, .byte b]
  | .differsByte x b => [.register x, .byte b]
  | .equals x y => [.register x, .register y]
  | .differs x y => [.register x, .register y]
  | .keyDown x => [.register x]
  | .keyUp x => [.register x]

/-- The operands of an instruction. -/
def Instruction.operands : Instruction → List Operand
  | .clear => []
  | .ret => []
  | .jump a => [.address a]
  | .call a => [.address a]
  | .skipIf t => t.operands
  | .load x b => [.register x, .byte b]
  | .increase x b => [.register x, .byte b]
  | .alu _ x y => [.register x, .register y]
  | .setIndex a => [.index, .address a]
  | .jumpOffset a => [.register 0, .address a]
  | .random x b => [.register x, .byte b]
  | .draw x y n => [.register x, .register y, .rows n]
  | .readDelay x => [.register x, .delay]
  | .awaitKey x => [.register x, .key]
  | .setDelay x => [.delay, .register x]
  | .setSound x => [.sound, .register x]
  | .addIndex x => [.index, .register x]
  | .glyph x => [.glyph, .register x]
  | .decimal x => [.decimals, .register x]
  | .store x => [.memory, .register x]
  | .restore x => [.register x, .memory]

/-- The operation on two registers with a mnemonic. -/
def AluOp.ofMnemonic? : String → Option AluOp
  | "LD" => some .copy
  | "OR" => some .or
  | "AND" => some .and
  | "XOR" => some .xor
  | "ADD" => some .add
  | "SUB" => some .sub
  | "SHR" => some .shiftRight
  | "SUBN" => some .subReversed
  | "SHL" => some .shiftLeft
  | _ => none

/-- The instruction with a mnemonic and operands. -/
def Instruction.ofOperands? : String → List Operand → Option Instruction
  | "CLS", [] => some .clear
  | "RET", [] => some .ret
  | "JP", [.address a] => some (.jump a)
  | "JP", [.register _, .address a] => some (.jumpOffset a)
  | "CALL", [.address a] => some (.call a)
  | "SE", [.register x, .byte b] => some (.skipIf (.equalsByte x b))
  | "SE", [.register x, .register y] => some (.skipIf (.equals x y))
  | "SNE", [.register x, .byte b] => some (.skipIf (.differsByte x b))
  | "SNE", [.register x, .register y] => some (.skipIf (.differs x y))
  | "SKP", [.register x] => some (.skipIf (.keyDown x))
  | "SKNP", [.register x] => some (.skipIf (.keyUp x))
  | "LD", [.register x, .byte b] => some (.load x b)
  | "ADD", [.register x, .byte b] => some (.increase x b)
  | "RND", [.register x, .byte b] => some (.random x b)
  | "DRW", [.register x, .register y, .rows n] => some (.draw x y n)
  | "LD", [.index, .address a] => some (.setIndex a)
  | "ADD", [.index, .register x] => some (.addIndex x)
  | "LD", [.register x, .delay] => some (.readDelay x)
  | "LD", [.register x, .key] => some (.awaitKey x)
  | "LD", [.register x, .memory] => some (.restore x)
  | "LD", [.delay, .register x] => some (.setDelay x)
  | "LD", [.sound, .register x] => some (.setSound x)
  | "LD", [.glyph, .register x] => some (.glyph x)
  | "LD", [.decimals, .register x] => some (.decimal x)
  | "LD", [.memory, .register x] => some (.store x)
  | mnemonic, [.register x, .register y] =>
    (AluOp.ofMnemonic? mnemonic).map fun op => .alu op x y
  | _, _ => none

/-- Instructions that share a mnemonic have operands of different forms. -/
theorem Instruction.ofOperands?_operands (i : Instruction) :
    ofOperands? (Assembly.ofInstruction i).mnemonic i.operands = some i := by
  cases i with
  | skipIf t => cases t <;> rfl
  | alu op x y => cases op <;> rfl
  | _ => rfl

namespace Assembly

/-- What is written are the texts of the operands. -/
theorem operands_ofInstruction (i : Instruction) :
    (ofInstruction i).operands = i.operands.map Operand.text := by
  cases i with
  | skipIf t => cases t <;> rfl
  | jumpOffset a =>
    have hzero : "V0" = register 0 := by decide +kernel
    rw [ofInstruction, hzero]
    rfl
  | _ => rfl

/-- The instruction of a written form, if it is one. -/
def instruction? (a : Assembly) : Option Instruction :=
  Instruction.ofOperands? a.mnemonic (a.operands.map Operand.read)

/-- **Every instruction can be read again.** -/
theorem instruction?_ofInstruction (i : Instruction) :
    (ofInstruction i).instruction? = some i := by
  have hread : (i.operands.map Operand.text).map Operand.read = i.operands := by
    rw [List.map_map]
    exact List.map_id'' Operand.read_text i.operands
  rw [instruction?, operands_ofInstruction, hread, Instruction.ofOperands?_operands]

/-- A word and its written form have the same instruction. -/
theorem instruction?_ofWord (word : Int) :
    (ofWord word).instruction? = Instruction.ofWord? word := by
  rw [ofWord_eq]
  cases Instruction.ofWord? word with
  | some i => exact instruction?_ofInstruction i
  | none => rfl

/-- Words are written alike exactly if they have the same instruction, or none. -/
theorem ofWord_eq_ofWord_iff {v w : Int} :
    ofWord v = ofWord w ↔ Instruction.ofWord? v = Instruction.ofWord? w := by
  constructor
  · intro h
    rw [← instruction?_ofWord, ← instruction?_ofWord, h]
  · intro h
    rw [ofWord_eq, ofWord_eq, h]

end Assembly

namespace Machine

/-- **What is written decides what is done.**  Two words of 32 bits with the same mnemonic and
the same operands are both done, in either mode and from any state, and leave the same machine
behind. -/
theorem execute?_eq_of_ofWord_eq {v w : Int} (hv : WidthError.fits v = true)
    (hw : WidthError.fits w = true) (h : Assembly.ofWord v = Assembly.ofWord w) (m : Machine) :
    ∃ after, m.execute? v = .ok after ∧ m.execute? w = .ok after := by
  have hsame : m.execute w = m.execute v := by
    rw [execute_eq, execute_eq, Assembly.ofWord_eq_ofWord_iff.1 h]
  refine ⟨m.execute v, ?_, ?_⟩
  · simp only [execute?, WidthError.checkWord, if_pos hv]
    rfl
  · simp only [execute?, WidthError.checkWord, if_pos hw, hsame]
    rfl

/-- Two words of one skip, one of them negative: neither the last digit counts nor what is
above the sixteenth bit. -/
theorem execute?_eq_of_ofWord_eq_negative :
    WidthError.fits 0x15120 = true ∧ WidthError.fits (-0xAED7) = true ∧
      Assembly.ofWord 0x15120 = Assembly.ofWord (-0xAED7) ∧
      ∃ after, (fresh .modern ⟨0, 0⟩).execute? 0x15120 = .ok after ∧
        (fresh .modern ⟨0, 0⟩).execute? (-0xAED7) = .ok after := by
  have hv : WidthError.fits 0x15120 = true := by decide
  have hw : WidthError.fits (-0xAED7) = true := by decide
  have h : Assembly.ofWord 0x15120 = Assembly.ofWord (-0xAED7) := by decide +kernel
  exact ⟨hv, hw, h, execute?_eq_of_ofWord_eq hv hw h (fresh .modern ⟨0, 0⟩)⟩

end Machine

end ChipEight
