import ChipEight.Proofs.Invariant

/-!
# Where a cycle goes on

Every instruction moves the program counter by itself, and most of them just step over their
own word.  What the others do (`execute_jump`, `execute_call`, `execute_return`, the skips and the
wait for a key) is said here about the word and its nibbles alone, with the registers, the keys and
the stack as they are before the cycle.  Numbers are compared where nothing can wrap around; only
the address a return finds in its slot may be any number of sixteen bits, and stepping over the call
there is a sum of sixteen bits.

* `Instruction.Steers` — the words that do not just step over themselves.
* `Machine.GoesOn` — the law, one line for each kind of word.
* `Machine.goesOn_cycle` — every cycle that goes well obeys it, in both modes.
-/

namespace ChipEight

/-- The words that have a say in where the machine goes on: jumps, calls, skips, returns,
and the wait for a key. -/
def Instruction.Steers (w : Nat) : Prop :=
  w / 4096 ∈ [0x1, 0x2, 0x3, 0x4, 0x5, 0x9, 0xB] ∨
  (w / 4096 = 0x0 ∧ w % 256 = 0xEE) ∨
  (w / 4096 = 0xE ∧ w % 256 ∈ [0x9E, 0xA1]) ∨
  (w / 4096 = 0xF ∧ w % 256 = 0x0A)

namespace Machine

open Instruction

/-! ## The law -/

/-- The register named by the second nibble of a word. -/
def registerX (m : Machine) (w : Nat) : UInt8 := m.register (Fin.ofNat 16 (w / 256))

/-- The register named by the third nibble of a word. -/
def registerY (m : Machine) (w : Nat) : UInt8 := m.register (Fin.ofNat 16 (w / 16))

/-- Whether the key is held that this register names with its last four bits. -/
def keyX (m : Machine) (w : Nat) : Bool := m.keypad.get (Fin.ofNat 16 (m.registerX w).toNat)

/-- `m.GoesOn w pc`: after the word `w` the machine `m` goes on at `pc`. -/
structure GoesOn (m : Machine) (w : Nat) (pc : UInt16) : Prop where
  jump : w / 4096 = 0x1 → pc.toNat = w % 4096
  call : w / 4096 = 0x2 → pc.toNat = w % 4096
  /-- The sum is not cut off to twelve bits. -/
  offsetLegacy : w / 4096 = 0xB → m.mode = .legacy →
    pc.toNat = w % 4096 + (m.register 0).toNat
  offsetModern : w / 4096 = 0xB → m.mode = .modern →
    pc.toNat = w % 4096 + (m.registerX w).toNat
  /-- Behind the call whose address is the last one on the stack. -/
  ret : w / 4096 = 0x0 → w % 256 = 0xEE → 0 < m.stack.depth.toNat ∧
    ∃ a, m.stack.slots[m.stack.depth.toNat - 1]? = some a ∧ pc = a + 2
  equalsByte : w / 4096 = 0x3 →
    pc.toNat = m.pc.toNat + if (m.registerX w).toNat = w % 256 then 4 else 2
  differsByte : w / 4096 = 0x4 →
    pc.toNat = m.pc.toNat + if (m.registerX w).toNat ≠ w % 256 then 4 else 2
  equals : w / 4096 = 0x5 →
    pc.toNat = m.pc.toNat + if m.registerX w = m.registerY w then 4 else 2
  differs : w / 4096 = 0x9 →
    pc.toNat = m.pc.toNat + if m.registerX w ≠ m.registerY w then 4 else 2
  keyDown : w / 4096 = 0xE → w % 256 = 0x9E →
    pc.toNat = m.pc.toNat + if m.keyX w = true then 4 else 2
  keyUp : w / 4096 = 0xE → w % 256 = 0xA1 →
    pc.toNat = m.pc.toNat + if m.keyX w = false then 4 else 2
  /-- The wait repeats itself as long as no key is held. -/
  awaitKey : w / 4096 = 0xF → w % 256 = 0x0A →
    ((∀ k, m.keypad.get k = false) → pc = m.pc) ∧
    ((∃ k, m.keypad.get k = true) → pc.toNat = m.pc.toNat + 2)
  other : ¬ Steers w → pc.toNat = m.pc.toNat + 2

/-! ## The words and their instructions -/

section

variable {m : Machine} {w : Nat} {i : Instruction}

theorem toNat_pc_of_pattern (hok : m.cycle.error = 0) (hw : m.Fetches w) (hi : i.Pattern w)
    (hne : i ≠ .ret) : m.cycle.pc.toNat = m.destination i := by
  have h := executes_of_pattern hok hw hi
  rw [h.pc_cycle, toNat_pcAfter_of_ne_ret h hne]

/-- A skip goes on behind the next word exactly if its test holds. -/
theorem toNat_pc_of_test (hok : m.cycle.error = 0) (hw : m.Fetches w) {t : Test} {P : Prop}
    [Decidable P] (ht : t.Pattern w) (hP : m.holds t = true ↔ P) :
    m.cycle.pc.toNat = m.pc.toNat + if P then 4 else 2 := by
  have hpc : m.cycle.pc.toNat = m.destination (.skipIf t) :=
    toNat_pc_of_pattern hok hw ht (by simp)
  rw [hpc, destination]
  by_cases h : P
  · rw [if_pos (hP.2 h), if_pos h]
  · rw [if_neg (mt hP.1 h), if_neg h]

/-- A return that goes well takes the last address from the stack. -/
theorem pc_of_ret (hok : m.cycle.error = 0) (hw : m.Fetches w)
    (hd : m.stack.depth.toNat ≤ 16) (hi : Instruction.ret.Pattern w) :
    0 < m.stack.depth.toNat ∧
      ∃ a, m.stack.slots[m.stack.depth.toNat - 1]? = some a ∧ m.cycle.pc = a + 2 := by
  have h := executes_of_pattern hok hw hi
  have hpos := h.depth_pos
  have hlt : m.stack.depth.toNat - 1 < 16 := by omega
  refine ⟨hpos, m.stack.slots[m.stack.depth.toNat - 1], Vector.getElem?_eq_getElem hlt, ?_⟩
  rw [h.pc_cycle, pcAfter, Stack.snd_pop hpos hd]

theorem lowest?_eq_none_iff (pad : Keypad) :
    pad.lowest? = none ↔ ∀ k, pad.get k = false := by
  simp [Keypad.lowest?, List.find?_eq_none]

/-- A word that has no say goes on with the next one. -/
theorem destination_of_not_steers (hi : i.Pattern w) (h : ¬ Steers w) :
    m.destination i = m.pc.toNat + 2 := by
  cases i with
  | ret => exact absurd (Or.inr (Or.inl hi)) h
  | jump a | call a | jumpOffset a => exact absurd (Or.inl (by simp [hi.1])) h
  | skipIf t =>
    refine absurd ?_ h
    cases t with
    | keyDown x | keyUp x => exact Or.inr (Or.inr (Or.inl ⟨hi.1, by simp [hi.2.2]⟩))
    | _ => exact Or.inl (by simp [hi.1])
  | awaitKey x => exact absurd (Or.inr (Or.inr (Or.inr ⟨hi.1, hi.2.2⟩))) h
  | _ => rfl

/-- The law for the word that was fetched. -/
theorem goesOn_of_fetches (hok : m.cycle.error = 0) (hw : m.Fetches w)
    (hd : m.stack.depth.toNat ≤ 16) : m.GoesOn w m.cycle.pc where
  jump hf := toNat_pc_of_pattern (i := .jump (Fin.ofNat 4096 w)) hok hw ⟨hf, rfl⟩ (by simp)
  call hf := toNat_pc_of_pattern (i := .call (Fin.ofNat 4096 w)) hok hw ⟨hf, rfl⟩ (by simp)
  offsetLegacy hf hmode := by
    have hpc := toNat_pc_of_pattern (i := .jumpOffset (Fin.ofNat 4096 w)) hok hw ⟨hf, rfl⟩
      (by simp)
    rw [hpc, destination, hmode, offsetRegister]
    rfl
  offsetModern hf hmode := by
    have hpc := toNat_pc_of_pattern (i := .jumpOffset (Fin.ofNat 4096 w)) hok hw ⟨hf, rfl⟩
      (by simp)
    -- the second nibble of the word is the first one of the address
    have hx : (Fin.ofNat 16 (w % 4096 / 256) : Nibble) = Fin.ofNat 16 (w / 256) := by
      apply Fin.ext
      simp only [Fin.val_ofNat]
      omega
    rw [hpc, destination, hmode, offsetRegister]
    simp only [Fin.val_ofNat, hx, registerX]
  ret hf hb := pc_of_ret hok hw hd ⟨hf, hb⟩
  equalsByte hf := by
    refine toNat_pc_of_test (t := .equalsByte (Fin.ofNat 16 (w / 256)) (UInt8.ofNat w)) hok hw
      ⟨hf, rfl, UInt8.toNat_ofNat'.symm⟩ ?_
    simp [holds, registerX, ← UInt8.toNat_inj]
  differsByte hf := by
    refine toNat_pc_of_test (t := .differsByte (Fin.ofNat 16 (w / 256)) (UInt8.ofNat w)) hok hw
      ⟨hf, rfl, UInt8.toNat_ofNat'.symm⟩ ?_
    simp [holds, registerX, ← UInt8.toNat_inj]
  equals hf := by
    refine toNat_pc_of_test (t := .equals (Fin.ofNat 16 (w / 256)) (Fin.ofNat 16 (w / 16))) hok
      hw ⟨hf, rfl, rfl⟩ ?_
    simp [holds, registerX, registerY]
  differs hf := by
    refine toNat_pc_of_test (t := .differs (Fin.ofNat 16 (w / 256)) (Fin.ofNat 16 (w / 16))) hok
      hw ⟨hf, rfl, rfl⟩ ?_
    simp [holds, registerX, registerY]
  keyDown hf hb :=
    toNat_pc_of_test (t := .keyDown (Fin.ofNat 16 (w / 256))) hok hw ⟨hf, rfl, hb⟩ Iff.rfl
  keyUp hf hb := by
    refine toNat_pc_of_test (t := .keyUp (Fin.ofNat 16 (w / 256))) hok hw ⟨hf, rfl, hb⟩ ?_
    simp [holds, keyX, registerX, namedKey]
  awaitKey hf hb := by
    have h := executes_of_pattern (i := .awaitKey (Fin.ofNat 16 (w / 256))) hok hw ⟨hf, rfl, hb⟩
    constructor
    · intro hnone
      rw [h.pc_cycle, pcAfter, (lowest?_eq_none_iff _).2 hnone]
      rfl
    · rintro ⟨k, hk⟩
      have hsome : m.keypad.lowest?.isSome = true := by
        rw [Option.isSome_iff_ne_none, ne_eq, lowest?_eq_none_iff]
        intro hall
        rw [hall k] at hk
        cases hk
      rw [h.pc_cycle, toNat_pcAfter_of_ne_ret h (by simp), destination, if_pos hsome]
  other hs := by
    obtain ⟨i, hi⟩ := executes_of_error_cycle hok
    have hp := pattern_of_fetches hw hi.reads
    have hne : i ≠ .ret := by
      rintro rfl
      exact hs (Or.inr (Or.inl hp))
    rw [toNat_pc_of_pattern hok hw hp hne, destination_of_not_steers hp hs]

end

/-- **Where a cycle goes on.**  A cycle that ends without a fault had a whole word at the
program counter, and that word decides where the machine goes on.  Nothing is assumed of the
stack but that its depth fits. -/
theorem goesOn_cycle {m : Machine} (hd : m.stack.depth.toNat ≤ 16) (hok : m.cycle.error = 0) :
    ∃ w, m.Fetches w ∧ m.GoesOn w m.cycle.pc := by
  obtain ⟨i, hi⟩ := executes_of_error_cycle hok
  have hw : m.Fetches m.word := fetches_iff.2 ⟨hi.whole, rfl⟩
  exact ⟨m.word, hw, goesOn_of_fetches hok hw hd⟩

/-- A machine that is about to jump as far as a jump can go. -/
def leaping : Machine :=
  { Machine.fresh .modern ⟨0, 0⟩ with
    registers := Vector.replicate 16 0xFF
    memory := (Memory.fresh.write 0x200 0xBF).write 0x201 0xFF }

/-- It lands behind the end of memory: the sum has more than twelve bits. -/
theorem goesOn_cycle_leaping :
    leaping.stack.depth.toNat ≤ 16 ∧ leaping.cycle.error = 0 ∧ leaping.Fetches 0xBFFF ∧
      leaping.cycle.pc.toNat = 0x10FE := by
  have hd : leaping.stack.depth.toNat ≤ 16 := by decide
  have hok : leaping.cycle.error = 0 := by decide +kernel
  have hword : leaping.word = 0xBFFF := by decide +kernel
  have hbyte : (leaping.registerX 0xBFFF).toNat = 0xFF := by decide
  obtain ⟨w, hw, hlaw⟩ := goesOn_cycle hd hok
  obtain rfl : w = 0xBFFF := (fetches_iff.1 hw).2.trans hword
  refine ⟨hd, hok, hw, ?_⟩
  rw [hlaw.offsetModern (by decide) rfl, hbyte]

end Machine

end ChipEight
