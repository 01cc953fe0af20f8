import ChipEight.Proofs.Decoders

/-!
# The instruction table

The tables of `execute` and the tests of `disassemble` both come to `Instruction.ofWord?`, which
reads a word through its fields and two levels of matching.  This file says the same as a table of
bit patterns on the low sixteen bits alone:

* `Instruction.Pattern` — the words of an instruction, one line for each;
* `Instruction.Undefined` — the words that are left over in the families `0`, `8`, `E`
  and `F`;
* `Instruction.ofWord?_eq_some_iff` and `Instruction.ofWord?_eq_none_iff` — reading a word
  is looking it up in the table, so every word has one instruction or is undefined.
-/

namespace ChipEight

/-! ## Fields as numbers -/

namespace Fields

theorem family_ofWord (word : Int) : (ofWord word).family.val = lowBits word / 4096 := by
  have h := lowBits_lt word
  simp only [ofWord, Fin.val_ofNat]
  omega

theorem x_ofWord (word : Int) : (ofWord word).x.val = lowBits word / 256 % 16 := rfl

theorem y_ofWord (word : Int) : (ofWord word).y.val = lowBits word / 16 % 16 := rfl

theorem n_ofWord (word : Int) : (ofWord word).n.val = lowBits word % 16 := rfl

theorem byte_ofWord (word : Int) : (ofWord word).byte.toNat = lowBits word % 256 := by
  simp [ofWord]

theorem address_ofWord (word : Int) : (ofWord word).address.val = lowBits word % 4096 := rfl

/-- The fields of a number that is written with four nibbles. -/
theorem fields_of_nibbles {w f n : Nat} {x y : Nibble} (hn : n < 16)
    (hw : w = 4096 * f + 256 * x.val + 16 * y.val + n) :
    w / 4096 = f ∧ w / 256 % 16 = x.val ∧ w / 16 % 16 = y.val ∧ w % 16 = n := by
  have hx := x.isLt
  have hy := y.isLt
  refine ⟨?_, ?_, ?_, ?_⟩ <;> omega

/-- The fields of a number that is written with two nibbles and a byte. -/
theorem fields_of_byte {w f b : Nat} {x : Nibble} (hb : b < 256)
    (hw : w = 4096 * f + 256 * x.val + b) :
    w / 4096 = f ∧ w / 256 % 16 = x.val ∧ w % 256 = b := by
  have hx := x.isLt
  refine ⟨?_, ?_, ?_⟩ <;> omega

/-- A number of sixteen bits is its own low bits. -/
theorem lowBits_natCast {w : Nat} (h : w < 65536) : lowBits (w : Int) = w := by
  unfold lowBits
  omega

end Fields

/-! ## The operations on two registers -/

namespace AluOp

/-- The last nibble of the words of an operation. -/
def nibble : AluOp → Nat
  | .copy => 0x0
  | .or => 0x1
  | .and => 0x2
  | .xor => 0x3
  | .add => 0x4
  | .sub => 0x5
  | .shiftRight => 0x6
  | .subReversed => 0x7
  | .shiftLeft => 0xE

theorem ofNibble?_eq_some_iff (n : Nibble) (op : AluOp) :
    ofNibble? n = some op ↔ n.val = op.nibble := by
  cases op <;> revert n <;> decide

theorem ofNibble?_eq_none_iff (n : Nibble) :
    ofNibble? n = none ↔ n.val ∉ [0x0, 0x1, 0x2, 0x3, 0x4, 0x5, 0x6, 0x7, 0xE] := by
  revert n
  decide

end AluOp

/-! ## The table -/

/-- The words of the skips. -/
def Test.Pattern : Test → Nat → Prop
  | .equalsByte x b, w => w / 4096 = 0x3 ∧ w / 256 % 16 = x.val ∧ w % 256 = b.toNat
  | .differsByte x b, w => w / 4096 = 0x4 ∧ w / 256 % 16 = x.val ∧ w % 256 = b.toNat
  | .equals x y, w => w / 4096 = 0x5 ∧ w / 256 % 16 = x.val ∧ w / 16 % 16 = y.val
  | .differs x y, w => w / 4096 = 0x9 ∧ w / 256 % 16 = x.val ∧ w / 16 % 16 = y.val
  | .keyDown x, w => w / 4096 = 0xE ∧ w / 256 % 16 = x.val ∧ w % 256 = 0x9E
  | .keyUp x, w => w / 4096 = 0xE ∧ w / 256 % 16 = x.val ∧ w % 256 = 0xA1

namespace Instruction

/-- `i.Pattern w`: the number `w` of sixteen bits is a word of the instruction `i`. -/
def Pattern : Instruction → Nat → Prop
  | .clear, w => w / 4096 = 0x0 ∧ w % 256 = 0xE0
  | .ret, w => w / 4096 = 0x0 ∧ w % 256 = 0xEE
  | .jump a, w => w / 4096 = 0x1 ∧ w % 4096 = a.val
  | .call a, w => w / 4096 = 0x2 ∧ w % 4096 = a.val
  | .skipIf t, w => t.Pattern w
  | .load x b, w => w / 4096 = 0x6 ∧ w / 256 % 16 = x.val ∧ w % 256 = b.toNat
  | .increase x b, w => w / 4096 = 0x7 ∧ w / 256 % 16 = x.val ∧ w % 256 = b.toNat
  | .alu op x y, w =>
    w / 4096 = 0x8 ∧ w / 256 % 16 = x.val ∧ w / 16 % 16 = y.val ∧ w % 16 = op.nibble
  | .setIndex a, w => w / 4096 = 0xA ∧ w % 4096 = a.val
  | .jumpOffset a, w => w / 4096 = 0xB ∧ w % 4096 = a.val
  | .random x b, w => w / 4096 = 0xC ∧ w / 256 % 16 = x.val ∧ w % 256 = b.toNat
  | .draw x y n, w =>
    w / 4096 = 0xD ∧ w / 256 % 16 = x.val ∧ w / 16 % 16 = y.val ∧ w % 16 = n.val
  | .readDelay x, w => w / 4096 = 0xF ∧ w / 256 % 16 = x.val ∧ w % 256 = 0x07
  | .awaitKey x, w => w / 4096 = 0xF ∧ w / 256 % 16 = x.val ∧ w % 256 = 0x0A
  | .setDelay x, w => w / 4096 = 0xF ∧ w / 256 % 16 = x.val ∧ w % 256 = 0x15
  | .setSound x, w => w / 4096 = 0xF ∧ w / 256 % 16 = x.val ∧ w % 256 = 0x18
  | .addIndex x, w => w / 4096 = 0xF ∧ w / 256 % 16 = x.val ∧ w % 256 = 0x1E
  | .glyph x, w => w / 4096 = 0xF ∧ w / 256 % 16 = x.val ∧ w % 256 = 0x29
  | .decimal x, w => w / 4096 = 0xF ∧ w / 256 % 16 = x.val ∧ w % 256 = 0x33
  | .store x, w => w / 4096 = 0xF ∧ w / 256 % 16 = x.val ∧ w % 256 = 0x55
  | .restore x, w => w / 4096 = 0xF ∧ w / 256 % 16 = x.val ∧ w % 256 = 0x65

/-- The words without an instruction: the last byte, or in family `8` the last nibble, is
not one of those of the table. -/
def Undefined (w : Nat) : Prop :=
  (w / 4096 = 0x0 ∧ w % 256 ∉ [0xE0, 0xEE]) ∨
  (w / 4096 = 0x8 ∧ w % 16 ∉ [0x0, 0x1, 0x2, 0x3, 0x4, 0x5, 0x6, 0x7, 0xE]) ∨
  (w / 4096 = 0xE ∧ w % 256 ∉ [0x9E, 0xA1]) ∨
  (w / 4096 = 0xF ∧ w % 256 ∉ [0x07, 0x0A, 0x15, 0x18, 0x1E, 0x29, 0x33, 0x55, 0x65])

/-! ## Reading is looking up -/

theorem pattern_of_ofWord? {word : Int} {i : Instruction} (h : ofWord? word = some i) :
    i.Pattern (Fields.lowBits word) := by
  have hf := Fields.family_ofWord word
  have hx := Fields.x_ofWord word
  have hy := Fields.y_ofWord word
  have hn := Fields.n_ofWord word
  have hb := Fields.byte_ofWord word
  have ha := Fields.address_ofWord word
  unfold ofWord? ofFields? at h
  generalize Fields.ofWord word = f at *
  generalize Fields.lowBits word = w at *
  split at h
  case h_9 =>
    obtain ⟨op, hop, rfl⟩ := Option.map_eq_some_iff.1 h
    exact ⟨by omega, hx.symm, hy.symm, by rw [← hn, (AluOp.ofNibble?_eq_some_iff _ _).1 hop]⟩
  case h_16 =>
    -- what is left is the last family
    have hlt := f.family.isLt
    have hlast : w / 4096 = 0xF := by
      rw [← hf]
      grind
    split at h <;> cases h <;> exact ⟨hlast, hx.symm, by omega⟩
  all_goals (try split at h) <;> cases h <;> simp only [Pattern, Test.Pattern] <;> omega

theorem ofWord?_of_pattern {word : Int} {i : Instruction}
    (h : i.Pattern (Fields.lowBits word)) : ofWord? word = some i := by
  have hf := Fields.family_ofWord word
  have hx := Fields.x_ofWord word
  have hy := Fields.y_ofWord word
  have hn := Fields.n_ofWord word
  have hb := Fields.byte_ofWord word
  have ha := Fields.address_ofWord word
  unfold ofWord? ofFields?
  generalize Fields.ofWord word = f at *
  generalize Fields.lowBits word = w at *
  -- the operands are compared as numbers, which is how the table gives them
  cases i with
  | skipIf t =>
    cases t <;> simp only [Pattern, Test.Pattern] at h <;>
      simp [hf, hb, h, hx, hy, ← Fin.val_inj, ← UInt8.toNat_inj]
  | alu op x y =>
    obtain ⟨h1, h2, h3, h4⟩ := h
    have hop : AluOp.ofNibble? f.n = some op :=
      (AluOp.ofNibble?_eq_some_iff _ _).2 (hn.trans h4)
    simp [hf, h1, hop, hx, hy, h2, h3, ← Fin.val_inj]
  | _ =>
    simp only [Pattern] at h
    simp [hf, hb, h, hx, hy, hn, ha, ← Fin.val_inj, ← UInt8.toNat_inj]

/-- **Reading a word is looking it up in the table.** -/
theorem ofWord?_eq_some_iff {word : Int} {i : Instruction} :
    ofWord? word = some i ↔ i.Pattern (Fields.lowBits word) :=
  ⟨pattern_of_ofWord?, ofWord?_of_pattern⟩

/-- A word has no instruction exactly when the table leaves it undefined. -/
theorem ofWord?_eq_none_iff {word : Int} :
    ofWord? word = none ↔ Undefined (Fields.lowBits word) := by
  rw [ofWord?, ofFields?, Undefined, ← Fields.family_ofWord, ← Fields.n_ofWord,
    ← Fields.byte_ofWord]
  generalize Fields.ofWord word = f
  split
  case h_9 hfam => simp [hfam, AluOp.ofNibble?_eq_none_iff]
  case h_16 =>
    have hlt := f.family.isLt
    have hlast : f.family.val = 0xF := by grind
    split <;> simp_all
  all_goals (try split) <;> simp_all

end Instruction

end ChipEight
