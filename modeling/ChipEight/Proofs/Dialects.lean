import ChipEight.Proofs.Lockstep

/-!
# What the two dialects share

The two dialects of the instruction set (`modern_mode` on or off) differ in a few words: shifts of
one register into another, jumps with an offset, and the transfers between registers and memory.  A
program that keeps away from them runs in both dialects alike, cycle by cycle, down to the fault it
ends with and the trace it leaves.  What counts are the words it does, not those it has in memory,
and it may well have written them itself.

* `Instruction.Dialectal` — the words that depend on the dialect.
* `Machine.perform_inMode` — any other instruction does the same in both.
* `Machine.dialects_agree` — so do two runs, as long as no such word is done.
-/

namespace ChipEight

namespace Instruction

/-- The words that depend on the dialect: shifts from one register to another, transfers of
registers, and jumps with an offset unless both dialects take it from register zero. -/
def Dialectal (w : Nat) : Prop :=
  (w / 4096 = 0x8 ∧ w % 16 ∈ [0x6, 0xE] ∧ w / 256 % 16 ≠ w / 16 % 16) ∨
  (w / 4096 = 0xF ∧ w % 256 ∈ [0x55, 0x65]) ∨
  (w / 4096 = 0xB ∧ w / 256 % 16 ≠ 0)

variable {w : Nat}

/-- Where no dialect is in play, a shift has one register for its source and its target. -/
theorem eq_of_not_dialectal {op : AluOp} {x y : Nibble} (hi : (alu op x y).Pattern w)
    (h : ¬ Dialectal w) (hop : op = .shiftRight ∨ op = .shiftLeft) : x = y := by
  obtain ⟨hf, hx, hy, hn⟩ := hi
  apply Decidable.byContradiction
  intro hne
  refine h (Or.inl ⟨hf, ?_, ?_⟩)
  · rcases hop with rfl | rfl <;> simp [hn, AluOp.nibble]
  · rw [hx, hy]
    exact fun heq => hne (Fin.ext heq)

/-- Where no dialect is in play, an offset is the one of register zero. -/
theorem offset_of_not_dialectal {a : Address} (hi : (jumpOffset a).Pattern w)
    (h : ¬ Dialectal w) : a.val / 256 = 0 := by
  obtain ⟨hf, ha⟩ := hi
  apply Decidable.byContradiction
  intro hne
  refine h (Or.inr (Or.inr ⟨hf, ?_⟩))
  omega

theorem dialectal_of_transfer {i : Instruction} {x : Nibble} (hi : i.Pattern w)
    (h : i = .store x ∨ i = .restore x) : Dialectal w := by
  rcases h with rfl | rfl
  all_goals
    obtain ⟨hf, -, hb⟩ := hi
    exact Or.inr (Or.inl ⟨hf, by simp [hb]⟩)

end Instruction

/-- A byte that is shifted in its own register is shifted alike in both dialects. -/
theorem AluOp.apply_of_source {op : AluOp} {a b : UInt8} (mode mode' : Mode)
    (h : op = .shiftRight ∨ op = .shiftLeft → a = b) : op.apply mode' a b = op.apply mode a b := by
  have hsource : ∀ mode : Mode, a = b → Arithmetic.shiftSource mode a b = a := by
    intro mode heq
    cases mode with
    | legacy => exact heq.symm
    | modern => rfl
  cases op with
  | shiftRight =>
    have heq := h (Or.inl rfl)
    simp only [apply, hsource _ heq]
  | shiftLeft =>
    have heq := h (Or.inr rfl)
    simp only [apply, hsource _ heq]
  | _ => rfl

namespace Machine

open Instruction

/-- The machine with another dialect. -/
def inMode (m : Machine) (mode : Mode) : Machine := { m with mode := mode }

/-- The dialect has no part in what is fetched, nor in what goes wrong. -/
theorem inStep_inMode (m : Machine) (mode : Mode) : m.InStep (m.inMode mode) where
  error := rfl
  pc := rfl
  memory := rfl
  faultOf i := by cases i <;> rfl

/-! ## Instructions -/

section

variable {m : Machine} (mode : Mode)

theorem putResult_inMode (x : Nibble) (r : Arithmetic.Result) :
    (m.inMode mode).putResult x r = (m.putResult x r).inMode mode := by
  unfold putResult
  split <;> rfl

theorem offsetRegister_of_low {a : Address} (h : a.val / 256 = 0) : offsetRegister mode a = 0 := by
  cases mode with
  | legacy => rfl
  | modern =>
    simp only [offsetRegister, h]
    rfl

/-- **An instruction whose word belongs to no dialect does the same in both.** -/
theorem perform_inMode {i : Instruction} {w : Nat} (hi : i.Pattern w) (h : ¬ Dialectal w) :
    (m.inMode mode).perform i = (m.perform i).inMode mode := by
  cases i with
  | alu op x y =>
    have hresult : op.apply mode (m.register x) (m.register y) =
        op.apply m.mode (m.register x) (m.register y) := by
      apply AluOp.apply_of_source
      intro hop
      rw [eq_of_not_dialectal hi h hop]
    show ((m.inMode mode).putResult x (op.apply mode (m.register x) (m.register y))).next = _
    rw [hresult, putResult_inMode]
    rfl
  | jumpOffset a =>
    have hlow := offset_of_not_dialectal hi h
    have hregister : offsetRegister mode a = offsetRegister m.mode a := by
      rw [offsetRegister_of_low mode hlow, offsetRegister_of_low m.mode hlow]
    show { m.inMode mode with
      pc := UInt16.ofNat a.val + (m.register (offsetRegister mode a)).toUInt16 } = _
    rw [hregister]
    rfl
  | store x => exact absurd (dialectal_of_transfer hi (Or.inl rfl)) h
  | restore x => exact absurd (dialectal_of_transfer hi (Or.inr rfl)) h
  | awaitKey x =>
    simp only [perform, inMode]
    split <;> rfl
  | _ => rfl

end

/-! ## Cycles and runs -/

/-- A cycle that does no word of a dialect is the same in both dialects, and so is one that goes
wrong. -/
theorem cycle_inMode {m : Machine} (mode : Mode)
    (h : ∀ w, m.Fetches w → m.cycle.error = 0 → ¬ Dialectal w) :
    (m.inMode mode).cycle = m.cycle.inMode mode := by
  apply (m.inStep_inMode mode).cycle (R := fun a b => b = a.inMode mode)
  · intro code
    rfl
  · intro i hi
    obtain ⟨hw, hpattern⟩ := hi.fetches
    rw [perform_inMode mode hpattern (h m.word hw hi.error_cycle)]
    rfl

/-- By induction on the cycles: a run that does no word of a dialect is the same in both, up to its
mode. -/
theorem run_inMode {m : Machine} {n : Nat} (mode : Mode)
    (h : ∀ k < n, ∀ w, (m.run k).Fetches w → (m.run (k + 1)).error = 0 → ¬ Dialectal w) :
    (m.inMode mode).run n = (m.run n).inMode mode := by
  induction n with
  | zero => rfl
  | succ n ih =>
    have hbefore := ih fun k hk => h k (Nat.lt_succ_of_lt hk)
    have hlast := h n (Nat.lt_succ_self n)
    rw [run_succ] at hlast
    rw [run_succ, run_succ, hbefore]
    exact cycle_inMode mode hlast

/-- **What the two dialects share.**  The second machine is the first one but for the dialect, and
of the words the first one does in so many cycles none is of a dialect.  Then the second machine
is after these cycles still the first one but for the dialect: it stopped with the same fault, if
it did, it reports the same, and it left the same trace. -/
theorem dialects_agree {m m' : Machine} (hsame : m' = { m with mode := m'.mode }) {n : Nat}
    (hwords : ∀ k < n, ∀ w, (m.run k).Fetches w → (m.run (k + 1)).error = 0 → ¬ Dialectal w) :
    m'.run n = { m.run n with mode := m'.mode } ∧
      (m'.run n).halt? = (m.run n).halt? ∧ m'.trace n = m.trace n := by
  have hrun : ∀ k ≤ n, m'.run k = (m.run k).inMode m'.mode := by
    intro k hk
    have hagree := run_inMode m'.mode fun j hj => hwords j (Nat.lt_of_lt_of_le hj hk)
    rwa [← show m' = m.inMode m'.mode from hsame] at hagree
  have hstep : ∀ k ≤ n, (m.run k).InStep (m'.run k) := by
    intro k hk
    rw [hrun k hk]
    exact inStep_inMode (m.run k) m'.mode
  refine ⟨hrun n (Nat.le_refl n), (hstep n (Nat.le_refl n)).halt?_eq, ?_⟩
  apply trace_of_inStep
  intro k hk
  exact hstep k (Nat.le_of_lt hk)

/-- A machine with a program that shifts a register and jumps into low memory, where it writes
the digits of the register behind its own last word and comes to do them.  A transfer of registers
stands behind the jump and is never done. -/
def digitsAhead : Machine :=
  { fresh .legacy ⟨0, 0⟩ with
    memory :=
      (Memory.fresh.writeAll 0x200 [0x61, 0xF7, 0x81, 0x16, 0xB0, 0x80, 0xF1, 0x55]).writeAll 0x080
        [0xA0, 0x84, 0xF1, 0x33] }

/-- Both dialects stop at the digits, which are no instruction. -/
theorem dialects_agree_digits :
    (∀ k < 7, ∀ w, (digitsAhead.run k).Fetches w → (digitsAhead.run (k + 1)).error = 0 →
      ¬ Dialectal w) ∧
    (digitsAhead.inMode .modern).run 7 = (digitsAhead.run 7).inMode .modern ∧
    ((digitsAhead.inMode .modern).run 7).halt? =
      some (.fault ⟨.unknownOpcode, 0x084, some 0x0102⟩) ∧
    (digitsAhead.inMode .modern).trace 7 = digitsAhead.trace 7 := by
  obtain ⟨hnone, hstop⟩ :
      (∀ k < 7, (digitsAhead.run (k + 1)).error = 0 → ¬ Dialectal (digitsAhead.run k).word) ∧
      (digitsAhead.run 7).halt? = some (.fault ⟨.unknownOpcode, 0x084, some 0x0102⟩) := by
    unfold Dialectal
    decide +kernel
  have hwords : ∀ k < 7, ∀ w, (digitsAhead.run k).Fetches w →
      (digitsAhead.run (k + 1)).error = 0 → ¬ Dialectal w := by
    intro k hk w hw hok
    obtain ⟨-, rfl⟩ := fetches_iff.1 hw
    exact hnone k hk hok
  obtain ⟨hrun, hhalt, htrace⟩ :=
    @dialects_agree digitsAhead (digitsAhead.inMode .modern) rfl 7 hwords
  exact ⟨hwords, hrun, hhalt.trans hstop, htrace⟩

end Machine

end ChipEight
