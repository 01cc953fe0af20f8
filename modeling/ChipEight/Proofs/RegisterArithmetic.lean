import ChipEight.Proofs.Effects

/-!
# Arithmetic on registers is arithmetic on integers

The operations on two registers (`execute_alu_operation`) work on bytes that wrap around, and five
of them put a flag into the last register when the result is already in place.  What they compute is
said here without wrapping: with its flag as a ninth bit, a result is the sum, the difference or the
double that integers have, and a shift to the right splits its byte into half and remainder.

The registers may coincide in any way.  Bytes are read before anything is written and the flag is
written last, so the flag is what the last register holds in the end, even where it was the
destination.

* `AluOp.Gives` — the law of each operation, one line for each.
* `AluOp.gives_apply` — the operations obey it.
* `Machine.Receives` — where a result and its flag go, and `Machine.receives_putResult`.
* `Machine.execute_exact` — what the words of families `7` and `8` do to the registers.
-/

namespace ChipEight

/-! ## The law of the operations -/

namespace Arithmetic.Result

/-- The result is this number, and there is no flag. -/
def Plain (result : Result) (r : Nat) : Prop := result.byte.toNat = r ∧ result.flag = none

/-- There is a flag, zero or one, and the law holds of the result and the flag. -/
def Flagged (result : Result) (law : Nat → Nat → Prop) : Prop :=
  ∃ f, result.flag = some f ∧ f.toNat ≤ 1 ∧ law result.byte.toNat f.toNat

end Arithmetic.Result

/-- `op.Gives a b c result`: of the numbers `a` and `b` in its two registers, or of the number `c`
that is shifted, the operation makes this result. -/
def AluOp.Gives (op : AluOp) (a b c : Nat) (result : Arithmetic.Result) : Prop :=
  match op with
  | .copy => result.Plain b
  | .or => result.Plain (a ||| b)
  | .and => result.Plain (a &&& b)
  | .xor => result.Plain (a ^^^ b)
  | .add => result.Flagged fun r f => r + 256 * f = a + b
  | .sub => result.Flagged fun r f => (f = 1 ↔ b ≤ a) ∧ (r : Int) = a - b + 256 * (1 - f)
  | .shiftRight => result.Flagged fun r f => 2 * r + f = c
  | .subReversed => result.Flagged fun r f => (f = 1 ↔ a ≤ b) ∧ (r : Int) = b - a + 256 * (1 - f)
  | .shiftLeft => result.Flagged fun r f => r + 256 * f = 2 * c

namespace Arithmetic

theorem toNat_bit_le (b : Bool) : (bit b).toNat ≤ 1 := by
  rw [toNat_bit]
  exact Bool.toNat_le b

/-- The flag of a difference says that nothing was borrowed, and what was borrowed is `256`. -/
theorem sub_flagged (a b : UInt8) :
    (sub a b).Flagged fun r f =>
      (f = 1 ↔ b.toNat ≤ a.toNat) ∧ (r : Int) = a.toNat - b.toNat + 256 * (1 - f) := by
  have hle := toNat_bit_le (decide (b.toNat ≤ a.toNat))
  have hexact := sub_exact a b
  refine ⟨_, rfl, hle, ?_, ?_⟩
  · rw [toNat_bit, Bool.toNat_eq_one, decide_eq_true_eq]
  · omega

theorem shiftRight_flagged (a : UInt8) :
    (shiftRight a).Flagged fun r f => 2 * r + f = a.toNat := by
  have hbit : (a &&& 1).toNat = a.toNat % 2 := by simp [UInt8.toNat_and, Nat.and_one_is_mod]
  refine ⟨_, rfl, ?_, shiftRight_exact a⟩
  omega

theorem shiftLeft_flagged (a : UInt8) :
    (shiftLeft a).Flagged fun r f => r + 256 * f = 2 * a.toNat := by
  have ha := a.toNat_lt
  have hexact := shiftLeft_exact a
  refine ⟨_, rfl, ?_, hexact⟩
  omega

end Arithmetic

/-- **The operations compute what integers do.** -/
theorem AluOp.gives_apply (op : AluOp) (mode : Mode) (a b : UInt8) :
    op.Gives a.toNat b.toNat (Arithmetic.shiftSource mode a b).toNat (op.apply mode a b) := by
  cases op with
  | copy => exact ⟨rfl, rfl⟩
  | or => exact ⟨UInt8.toNat_or .., rfl⟩
  | and => exact ⟨UInt8.toNat_and .., rfl⟩
  | xor => exact ⟨UInt8.toNat_xor .., rfl⟩
  | add => exact ⟨_, rfl, Arithmetic.toNat_bit_le _, Arithmetic.add_exact a b⟩
  | sub => exact Arithmetic.sub_flagged a b
  | subReversed => exact Arithmetic.sub_flagged b a
  | shiftRight => exact Arithmetic.shiftRight_flagged _
  | shiftLeft => exact Arithmetic.shiftLeft_flagged _

/-! ## Where a result goes -/

namespace Machine

/-- `m.Receives x result m'`: between `m` and `m'` the result went to the register `x` and then
its flag, if it has one, to the last register; the machine went on to the next word, and nothing
else changed. -/
structure Receives (m : Machine) (x : Nibble) (result : Arithmetic.Result) (m' : Machine) :
    Prop where
  flag : ∀ f, result.flag = some f → m'.register 15 = f
  /-- A flag takes the place of a result in the last register. -/
  byte : x ≠ 15 ∨ result.flag = none → m'.register x = result.byte
  other : ∀ z, z ≠ x → z ≠ 15 ∨ result.flag = none → m'.register z = m.register z
  rest : m' = { m with registers := m'.registers, pc := m.pc + 2 }

theorem receives_putResult (m : Machine) (x : Nibble) (result : Arithmetic.Result) :
    m.Receives x result (m.putResult x result).next := by
  obtain ⟨r, flag⟩ := result
  cases flag with
  | none =>
    refine ⟨?_, ?_, ?_, rfl⟩
    · intro f hf
      cases hf
    · intro _
      exact (register_setRegister m x x r).trans (if_pos rfl)
    · intro z hz _
      exact (register_setRegister m x z r).trans (if_neg (Ne.symm hz))
  | some f =>
    -- what the flag does not replace is what the result left
    have hbefore : ∀ z, z ≠ 15 →
        (m.putResult x ⟨r, some f⟩).next.register z = (m.setRegister x r).register z := by
      intro z hz
      exact (register_setRegister _ 15 z f).trans (if_neg (Ne.symm hz))
    refine ⟨?_, ?_, ?_, rfl⟩
    · intro f' hf'
      cases hf'
      exact (register_setRegister _ 15 15 f).trans (if_pos rfl)
    · intro hx
      have hlast : x ≠ 15 := hx.resolve_right (by simp)
      rw [hbefore x hlast, register_setRegister, if_pos rfl]
    · intro z hz hor
      have hlast : z ≠ 15 := hor.resolve_right (by simp)
      rw [hbefore z hlast, register_setRegister, if_neg (Ne.symm hz)]

theorem execute_alu {word : Int} (m : Machine) {x y : Nibble} {op : AluOp}
    (hword : Fields.lowBits word = 0x8000 + 256 * x.val + 16 * y.val + op.nibble) :
    m.execute word =
      (m.putResult x (op.apply m.mode (m.register x) (m.register y))).next := by
  have hop : op.nibble < 16 := by cases op <;> decide
  have hp : (Instruction.alu op x y).Pattern (Fields.lowBits word) :=
    Fields.fields_of_nibbles hop hword
  exact execute_of_pattern hp

theorem execute_increase {word : Int} (m : Machine) {x : Nibble} {b : UInt8}
    (hword : Fields.lowBits word = 0x7000 + 256 * x.val + b.toNat) :
    m.execute word = (m.putResult x ⟨m.register x + b, none⟩).next := by
  have hp : (Instruction.increase x b).Pattern (Fields.lowBits word) :=
    Fields.fields_of_byte b.toNat_lt hword
  exact execute_of_pattern hp

/-- **Registers compute with integers.**  A word of family `8` makes of the bytes `a` and `b` in
its two registers, whichever they are, a result and perhaps a flag by the integer law of its
operation, where a shift takes `a` in the modern dialect and `b` in the legacy one; the result
goes to the first register and then the flag to the last one.  A word of family `7` adds its byte
modulo `256`, and there is no flag. -/
theorem execute_exact (m : Machine) (x y : Nibble) (word : Int) :
    let a := (m.register x).toNat
    let b := (m.register y).toNat
    (∀ op : AluOp,
      Fields.lowBits word = 0x8000 + 256 * x.val + 16 * y.val + op.nibble →
        ∃ result, op.Gives a b (if m.mode = .modern then a else b) result ∧
          m.Receives x result (m.execute word)) ∧
    (∀ n : UInt8, Fields.lowBits word = 0x7000 + 256 * x.val + n.toNat →
      ∃ result : Arithmetic.Result, result.Plain ((a + n.toNat) % 256) ∧
        m.Receives x result (m.execute word)) := by
  intro a b
  refine ⟨?_, ?_⟩
  · intro op hword
    have hsource : (if m.mode = .modern then a else b) =
        (Arithmetic.shiftSource m.mode (m.register x) (m.register y)).toNat := by
      cases m.mode <;> rfl
    rw [execute_alu m hword, hsource]
    exact ⟨_, op.gives_apply m.mode _ _, receives_putResult m x _⟩
  · intro n hword
    rw [execute_increase m hword]
    exact ⟨⟨m.register x + n, none⟩, ⟨UInt8.toNat_add .., rfl⟩, receives_putResult m x _⟩

/-- The flag register doubled in place keeps the carry alone, and counted up it keeps the sum. -/
theorem execute_exact_flagRegister :
    let m := (Machine.fresh .legacy ⟨0, 0⟩).setRegister 15 200
    Fields.lowBits 0x8FF4 =
        0x8000 + 256 * (15 : Nibble).val + 16 * (15 : Nibble).val + AluOp.add.nibble ∧
      (m.execute 0x8FF4).register 15 = 1 ∧
      Fields.lowBits 0x7F64 = 0x7000 + 256 * (15 : Nibble).val + (0x64 : UInt8).toNat ∧
      ((m.execute 0x7F64).register 15).toNat = 44 := by
  intro m
  have hregister : (m.register 15).toNat = 200 := rfl
  have hadd : Fields.lowBits 0x8FF4 =
      0x8000 + 256 * (15 : Nibble).val + 16 * (15 : Nibble).val + AluOp.add.nibble := by decide
  have hincrease :
      Fields.lowBits 0x7F64 = 0x7000 + 256 * (15 : Nibble).val + (0x64 : UInt8).toNat := by decide
  obtain ⟨sum, ⟨f, hf, hle, hsum⟩, hreceives⟩ := (execute_exact m 15 15 0x8FF4).1 .add hadd
  obtain ⟨plain, ⟨hbyte, hnone⟩, hreceives'⟩ := (execute_exact m 15 15 0x7F64).2 0x64 hincrease
  have hlt := sum.byte.toNat_lt
  refine ⟨hadd, ?_, hincrease, ?_⟩
  · rw [hreceives.flag f hf, ← UInt8.toNat_inj]
    -- a sum of 400 does not fit without its carry
    have hone : f.toNat = 1 := by omega
    exact hone
  · rw [hreceives'.byte (Or.inr hnone), hbyte, hregister]
    rfl

end Machine

end ChipEight
