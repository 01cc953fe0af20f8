/-!
# The fields of an instruction word

An instruction word is read by its low sixteen bits: four nibbles, of which the
first names the family and the others are operands, alone or joined to a byte or
an address.  A word may be any integer; a negative one is read in two's
complement, so that only its remainder modulo `65536` counts.  This is `decode`, whose
masks and shifts come to the same.
-/

namespace ChipEight

/-- A register number, or any other nibble. -/
abbrev Nibble := Fin 16

/-- An address that fits in a word: twelve bits. -/
abbrev Address := Fin 4096

instance Nibble.neZero : @NeZero Nat Zero.ofOfNat0 16 := ⟨by decide⟩

instance Address.neZero : @NeZero Nat Zero.ofOfNat0 4096 := ⟨by decide⟩

/-- A word taken apart, `DecodedInstruction`.  `raw` is the word as it was given. -/
structure Fields where
  raw : Int
  /-- The first nibble. -/
  family : Nibble
  /-- The second nibble, a register. -/
  x : Nibble
  /-- The third nibble, a register. -/
  y : Nibble
  /-- The fourth nibble. -/
  n : Nibble
  /-- The last two nibbles. -/
  byte : UInt8
  /-- The last three nibbles. -/
  address : Address
deriving DecidableEq, Repr

namespace Fields

/-- The sixteen bits of a word that are read. -/
def lowBits (word : Int) : Nat := (word % 65536).toNat

/-- Takes a word apart: `decode`. -/
def ofWord (word : Int) : Fields :=
  let w := lowBits word
  { raw := word
    family := Fin.ofNat 16 (w / 4096)
    x := Fin.ofNat 16 (w / 256)
    y := Fin.ofNat 16 (w / 16)
    n := Fin.ofNat 16 w
    byte := UInt8.ofNat w
    address := Fin.ofNat 4096 w }

theorem lowBits_lt (word : Int) : lowBits word < 65536 := by
  unfold lowBits
  omega

/-- Words that are congruent modulo `65536` have the same bits. -/
theorem lowBits_congr {v w : Int} (h : v % 65536 = w % 65536) : lowBits v = lowBits w := by
  rw [lowBits, lowBits, h]

end Fields

end ChipEight
