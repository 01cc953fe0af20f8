import ChipEight.Instruction.Assembly
import ChipEight.Machine.Perform
import ChipEight.Proofs.InstructionTable
import Mathlib.Data.Int.Bitwise

/-!
# The fields of a word are its low sixteen bits

Any integer can be taken apart as a word (`decode`).  The fields overlap, three of them being parts
of the other two, and each is a mask of the two's complement of the integer.  Together they are the
sixteen low bits, no more and no less, and nothing else of the integer is ever looked at: not by
what writes an instruction, and not by what does one.

* `Fields.testBit_lowBits` — the low bits of an integer are those of its two's complement, and
  `Fields.masks_ofWord` — each field is a mask of them.
* `Fields.Splits` — fields that fit together, and to a word; `Fields.splits_ofWord` and
  `Fields.Splits.eq_ofWord` — these are the fields of the word and no others.
* `Instruction.ofWord?_congr` — words with the same low bits have the same instruction.
* `Machine.decoding_exact` — all of this, and what follows for writing and for doing.
-/

namespace ChipEight

namespace Fields

/-! ## Masks -/

/-- **The low bits of an integer are those of its two's complement.** -/
theorem testBit_lowBits (word : Int) (i : Nat) :
    (lowBits word).testBit i = (decide (i < 16) && word.testBit i) := by
  cases word with
  | ofNat w =>
    have hbits : lowBits (Int.ofNat w) = w % 2 ^ 16 := by
      simp only [lowBits, Int.ofNat_eq_natCast]
      omega
    rw [hbits, Nat.testBit_mod_two_pow]
    rfl
  | negSucc w =>
    have hbits : lowBits (Int.negSucc w) = 2 ^ 16 - (w % 2 ^ 16 + 1) := by
      simp only [lowBits]
      omega
    rw [hbits, Nat.testBit_two_pow_sub_succ (Nat.mod_lt w (by decide)), Nat.testBit_mod_two_pow]
    cases decide (i < 16) <;> rfl

/-- A mask of sixteen bits lets nothing through but the low bits. -/
theorem land_natCast (word : Int) {mask : Nat} (h : mask < 65536) :
    word.land mask = ((lowBits word &&& mask : Nat) : Int) := by
  have hlow : ∀ i, (lowBits word &&& mask).testBit i = (word.testBit i && mask.testBit i) := by
    intro i
    rw [Nat.testBit_and, testBit_lowBits]
    by_cases hi : i < 16
    · simp [hi]
    · have hwidth : 2 ^ 16 ≤ 2 ^ i := Nat.pow_le_pow_right (by decide) (Nat.le_of_not_lt hi)
      have hhigh : mask.testBit i = false := Nat.testBit_lt_two_pow (Nat.lt_of_lt_of_le h hwidth)
      simp [hhigh]
  cases word with
  | ofNat w =>
    refine congrArg Int.ofNat (Nat.eq_of_testBit_eq fun i => ?_)
    rw [hlow, Nat.testBit_and]
    rfl
  | negSucc w =>
    refine congrArg Int.ofNat (Nat.eq_of_testBit_eq fun i => ?_)
    rw [hlow, Nat.testBit_ldiff, Bool.and_comm]
    rfl

/-- A row of set bits as a mask, moved down to the end. -/
theorem land_shiftRight (word : Int) {mask shift width : Nat} (hmask : mask < 65536)
    (hrow : mask = (2 ^ width - 1) <<< shift) :
    (word.land mask) >>> shift = ((lowBits word / 2 ^ shift % 2 ^ width : Nat) : Int) := by
  rw [land_natCast word hmask, hrow, ← Int.natCast_shiftRight, Nat.shiftRight_and_distrib,
    Nat.shiftLeft_shiftRight, Nat.and_two_pow_sub_one_eq_mod, Nat.shiftRight_eq_div_pow]

theorem land_ones (word : Int) {mask width : Nat} (hmask : mask < 65536)
    (hrow : mask = 2 ^ width - 1) : word.land mask = ((lowBits word % 2 ^ width : Nat) : Int) := by
  rw [land_natCast word hmask, hrow, Nat.and_two_pow_sub_one_eq_mod]

/-- `f.Masks word`: each field is a mask of the two's complement of the word, moved down to the
end. -/
structure Masks (f : Fields) (word : Int) : Prop where
  family : (f.family.val : Int) = (word.land 0xF000) >>> (12 : Nat)
  x : (f.x.val : Int) = (word.land 0x0F00) >>> (8 : Nat)
  y : (f.y.val : Int) = (word.land 0x00F0) >>> (4 : Nat)
  n : (f.n.val : Int) = word.land 0x000F
  byte : (f.byte.toNat : Int) = word.land 0x00FF
  address : (f.address.val : Int) = word.land 0x0FFF

/-- **The fields of a word are its masks.** -/
theorem masks_ofWord (word : Int) : (ofWord word).Masks word := by
  have hfamily := land_shiftRight word (by decide) (by decide : 0xF000 = (2 ^ 4 - 1) <<< 12)
  have hx := land_shiftRight word (by decide) (by decide : 0x0F00 = (2 ^ 4 - 1) <<< 8)
  have hy := land_shiftRight word (by decide) (by decide : 0x00F0 = (2 ^ 4 - 1) <<< 4)
  have hn := land_ones word (by decide) (by decide : 0x000F = 2 ^ 4 - 1)
  have hbyte := land_ones word (by decide) (by decide : 0x00FF = 2 ^ 8 - 1)
  have haddress := land_ones word (by decide) (by decide : 0x0FFF = 2 ^ 12 - 1)
  have hlt := lowBits_lt word
  -- the family is not reduced once more and the byte is a word of eight bits; the others agree
  refine ⟨?_, hx.symm, hy.symm, hn.symm, ?_, haddress.symm⟩
  · refine Eq.trans ?_ hfamily.symm
    rw [family_ofWord]
    omega
  · refine Eq.trans ?_ hbyte.symm
    rw [byte_ofWord]
    rfl

/-! ## The fields of a word -/

/-- `f.Splits word`: the byte is that of the last two nibbles, the address that of the last three,
and all four nibbles are the remainder of the word. -/
structure Splits (f : Fields) (word : Int) : Prop where
  byte : f.byte.toNat = 16 * f.y.val + f.n.val
  address : f.address.val = 256 * f.x.val + f.byte.toNat
  word : 4096 * (f.family.val : Int) + f.address.val = word % 65536

/-- **The fields of a word fit together and to the word.** -/
theorem splits_ofWord (word : Int) : (ofWord word).Splits word where
  byte := by
    rw [byte_ofWord, y_ofWord, n_ofWord]
    omega
  address := by
    rw [address_ofWord, x_ofWord, byte_ofWord]
    omega
  word := by
    rw [family_ofWord, address_ofWord, lowBits]
    omega

/-- **No other fields do.** -/
theorem Splits.eq_ofWord {f : Fields} {word : Int} (h : f.Splits word) :
    { f with raw := word } = ofWord word := by
  have hword := splits_ofWord word
  have hraw : (ofWord word).raw = word := rfl
  generalize ofWord word = g at hword hraw
  obtain ⟨raw, family, x, y, n, byte, address⟩ := f
  obtain ⟨raw', family', x', y', n', byte', address'⟩ := g
  obtain ⟨hbyte, haddress, hsum⟩ := h
  obtain ⟨hbyte', haddress', hsum'⟩ := hword
  simp only at hbyte haddress hsum hbyte' haddress' hsum' hraw
  have hb := byte.toNat_lt
  have hb' := byte'.toNat_lt
  -- the nibbles of both are the digits of one number in base sixteen
  simp only [Fields.mk.injEq, Fin.ext_iff, ← UInt8.toNat_inj]
  refine ⟨hraw.symm, ?_, ?_, ?_, ?_, ?_, ?_⟩ <;> omega

theorem ofWord_congr {v w : Int} (h : v % 65536 = w % 65536) :
    { ofWord v with raw := w } = ofWord w := by
  simp only [ofWord, lowBits_congr h]

end Fields

/-! ## Nothing else is looked at -/

namespace Instruction

/-- The word as it was given has no part in what it means. -/
theorem ofFields?_withRaw (f : Fields) (raw : Int) :
    ofFields? { f with raw := raw } = ofFields? f := rfl

theorem ofWord?_congr {v w : Int} (h : v % 65536 = w % 65536) : ofWord? v = ofWord? w :=
  calc
    ofWord? v = ofFields? { Fields.ofWord v with raw := w } := (ofFields?_withRaw _ w).symm
    _ = ofWord? w := congrArg ofFields? (Fields.ofWord_congr h)

end Instruction

namespace Machine

theorem execute?_of_fits (m : Machine) {word : Int} (h : WidthError.fits word = true) :
    m.execute? word = .ok (m.execute word) := by
  simp only [execute?, WidthError.checkWord, if_pos h]
  rfl

/-- **Taking a word apart is exact.**  The fields of any integer, negative or of any width, are its
masks.  They fit together and give its remainder, and no other fields do.  Integers with the same
remainder therefore have the same fields, except for the number they were given as; they are
written alike; and if they have 32 bits, both are done, in either mode and from any state, and
leave the same machine behind. -/
theorem decoding_exact (word : Int) :
    (Fields.ofWord word).Masks word ∧
    (Fields.ofWord word).Splits word ∧
    (∀ f : Fields, f.Splits word → { f with raw := word } = Fields.ofWord word) ∧
    ∀ other : Int, other % 65536 = word % 65536 →
      { Fields.ofWord other with raw := word } = Fields.ofWord word ∧
      Assembly.ofWord other = Assembly.ofWord word ∧
      (WidthError.fits other = true → WidthError.fits word = true → ∀ m : Machine,
        ∃ after, m.execute? other = .ok after ∧ m.execute? word = .ok after) := by
  refine ⟨Fields.masks_ofWord word, Fields.splits_ofWord word, fun f hf => hf.eq_ofWord, ?_⟩
  intro other hsame
  have hinstruction : Instruction.ofWord? other = Instruction.ofWord? word :=
    Instruction.ofWord?_congr hsame
  refine ⟨Fields.ofWord_congr hsame, ?_, ?_⟩
  · rw [Assembly.ofWord_eq, Assembly.ofWord_eq, hinstruction]
  · intro hother hword m
    have hdone : m.execute other = m.execute word := by rw [execute_eq, execute_eq, hinstruction]
    refine ⟨m.execute word, ?_, execute?_of_fits m hword⟩
    rw [execute?_of_fits m hother, hdone]

/-- Two integers with the low bits of one skip, one of them negative. -/
theorem decoding_exact_negative :
    (⟨-0xAEE0, 5, 1, 2, 0, 0x20, 0x120⟩ : Fields).Splits (-0xAEE0) ∧
      (0x15120 : Int) % 65536 = (-0xAEE0) % 65536 ∧
      WidthError.fits 0x15120 = true ∧ WidthError.fits (-0xAEE0) = true ∧
      Fields.ofWord (-0xAEE0) = ⟨-0xAEE0, 5, 1, 2, 0, 0x20, 0x120⟩ ∧
      Assembly.ofWord 0x15120 = Assembly.ofWord (-0xAEE0) ∧
      ∃ after, (fresh .modern ⟨0, 0⟩).execute? 0x15120 = .ok after ∧
        (fresh .modern ⟨0, 0⟩).execute? (-0xAEE0) = .ok after := by
  have hsplits : (⟨-0xAEE0, 5, 1, 2, 0, 0x20, 0x120⟩ : Fields).Splits (-0xAEE0) :=
    ⟨by decide, by decide, by decide⟩
  have hsame : (0x15120 : Int) % 65536 = (-0xAEE0) % 65536 := by decide
  have hother : WidthError.fits 0x15120 = true := by decide
  have hword : WidthError.fits (-0xAEE0) = true := by decide
  obtain ⟨-, -, hunique, hcongr⟩ := decoding_exact (-0xAEE0)
  obtain ⟨-, hwritten, hdone⟩ := hcongr 0x15120 hsame
  exact ⟨hsplits, hsame, hother, hword, (hunique _ hsplits).symm, hwritten,
    hdone hother hword (fresh .modern ⟨0, 0⟩)⟩

end Machine

end ChipEight
