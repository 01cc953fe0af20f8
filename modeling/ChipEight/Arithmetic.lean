import ChipEight.Instruction.Basic

/-!
# Byte arithmetic

The operations on two registers, on bytes alone.  Every operation gives a byte;
some also give a flag: a carry, the absence of a borrow, or the bit that was
shifted out.

The results are the integer ones with the flag as the missing ninth bit:
`add_exact`, `sub_exact`, `shiftRight_exact` and `shiftLeft_exact`.
-/

namespace ChipEight

/-- The two dialects of the instruction set, `modern_mode` off and on.  They differ in what is
shifted, in what a jump with an offset adds, and in whether moving registers to and from memory
moves the index. -/
inductive Mode
  | legacy
  | modern
deriving DecidableEq, Repr

namespace Arithmetic

/-- A byte, and the flag of the operations that give one. -/
structure Result where
  byte : UInt8
  flag : Option UInt8 := none
deriving DecidableEq, Repr

/-- A flag as the byte that is stored for it. -/
def bit (b : Bool) : UInt8 := if b then 1 else 0

/-- The sum, with the carry: `alu_add`. -/
def add (a b : UInt8) : Result := ⟨a + b, some (bit (decide (255 < a.toNat + b.toNat)))⟩

/-- The difference; the flag is set when nothing was borrowed: `alu_sub_xy`. -/
def sub (a b : UInt8) : Result := ⟨a - b, some (bit (decide (b.toNat ≤ a.toNat)))⟩

/-- Half of the byte, with the bit that was shifted out: `alu_shift_right`. -/
def shiftRight (a : UInt8) : Result := ⟨a >>> 1, some (a &&& 1)⟩

/-- Twice the byte, with the bit that was shifted out: `alu_shift_left`. -/
def shiftLeft (a : UInt8) : Result := ⟨a <<< 1, some (a >>> 7)⟩

/-- The byte that is shifted: the second register, or in the modern dialect the first, as
`make_shift_op` chooses it. -/
def shiftSource (mode : Mode) (a b : UInt8) : UInt8 :=
  match mode with
  | .legacy => b
  | .modern => a

end Arithmetic

/-- An operation on the bytes of the two registers it names: the functions `alu_…`. -/
def AluOp.apply (mode : Mode) (op : AluOp) (a b : UInt8) : Arithmetic.Result :=
  match op with
  | .copy => ⟨b, none⟩
  | .or => ⟨a ||| b, none⟩
  | .and => ⟨a &&& b, none⟩
  | .xor => ⟨a ^^^ b, none⟩
  | .add => Arithmetic.add a b
  | .sub => Arithmetic.sub a b
  | .shiftRight => Arithmetic.shiftRight (Arithmetic.shiftSource mode a b)
  | .subReversed => Arithmetic.sub b a
  | .shiftLeft => Arithmetic.shiftLeft (Arithmetic.shiftSource mode a b)

namespace Arithmetic

theorem toNat_bit (b : Bool) : (bit b).toNat = b.toNat := by
  cases b <;> rfl

theorem bit_eq_one_iff (b : Bool) : bit b = 1 ↔ b = true := by
  cases b <;> decide

theorem add_exact (a b : UInt8) :
    (add a b).byte.toNat + 256 * (bit (decide (255 < a.toNat + b.toNat))).toNat
      = a.toNat + b.toNat := by
  have ha := a.toNat_lt
  have hb := b.toNat_lt
  by_cases h : 255 < a.toNat + b.toNat <;> simp [add, bit, h, UInt8.toNat_add] <;> omega

theorem sub_exact (a b : UInt8) :
    (sub a b).byte.toNat + b.toNat
      = a.toNat + 256 * (1 - (bit (decide (b.toNat ≤ a.toNat))).toNat) := by
  have ha := a.toNat_lt
  have hb := b.toNat_lt
  by_cases h : b.toNat ≤ a.toNat <;> simp [sub, bit, h, UInt8.toNat_sub] <;> omega

theorem shiftRight_exact (a : UInt8) : 2 * (a >>> 1).toNat + (a &&& 1).toNat = a.toNat := by
  have h1 : (a >>> 1).toNat = a.toNat / 2 := by
    simp [UInt8.toNat_shiftRight, Nat.shiftRight_eq_div_pow]
  have h2 : (a &&& 1).toNat = a.toNat % 2 := by simp [UInt8.toNat_and, Nat.and_one_is_mod]
  omega

theorem shiftLeft_exact (a : UInt8) : (a <<< 1).toNat + 256 * (a >>> 7).toNat = 2 * a.toNat := by
  have ha := a.toNat_lt
  have h1 : (a >>> 7).toNat = a.toNat / 128 := by
    simp [UInt8.toNat_shiftRight, Nat.shiftRight_eq_div_pow]
  have h2 : (a <<< 1).toNat = 2 * a.toNat % 256 := by
    simp [UInt8.toNat_shiftLeft, Nat.shiftLeft_eq]
    omega
  omega

end Arithmetic

end ChipEight
