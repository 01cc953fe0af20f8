import ChipEight.Proofs.CycleCases
import ChipEight.Proofs.Disassembly
import ChipEight.Proofs.InstructionTable

/-!
# Words nobody knows

A word without a meaning is written in a form of its own (`???` in `disassemble`), and doing it is a
fault of its own (`execute_unknown`).
Both are told apart from all that can be written or go wrong otherwise, so what is written
tells what will be refused, and the other way round: these are the words the table of bit
patterns leaves undefined, whatever the state of the machine.

* `Assembly.ofInstruction_ne_unknown` — no instruction is written like a word without one.
* `Machine.faultOf_ne_unknownOpcode` — no instruction goes wrong like a word without one.
* `Machine.execute?_unknown` — written as unknown, left undefined and refused are one.
-/

namespace ChipEight

namespace Assembly

/-- What is written for a word without an instruction is not read as one. -/
theorem instruction?_unknown : unknown.instruction? = none := by
  rfl

theorem ofInstruction_ne_unknown (i : Instruction) : ofInstruction i ≠ unknown := by
  intro h
  have hread := instruction?_ofInstruction i
  rw [h, instruction?_unknown] at hread
  cases hread

theorem ofWord_eq_unknown_iff (word : Int) :
    ofWord word = unknown ↔ Instruction.ofWord? word = none := by
  rw [ofWord_eq]
  cases Instruction.ofWord? word with
  | none => exact iff_of_true rfl rfl
  | some i => exact iff_of_false (ofInstruction_ne_unknown i) (by simp)

end Assembly

namespace Machine

theorem ite_ne_of_ne {b : Bool} {c d : FaultCode} (hc : c ≠ d) (hclear : FaultCode.clear ≠ d) :
    (if b then c else .clear) ≠ d := by
  cases b with
  | true => exact hc
  | false => exact hclear

/-- The faults of instructions are those of the stack and of memory. -/
theorem faultOf_ne_unknownOpcode (m : Machine) (i : Instruction) :
    m.faultOf i ≠ .unknownOpcode := by
  cases i with
  | ret | call a | draw x y rows | decimal x | store x | restore x =>
    exact ite_ne_of_ne (by decide) (by decide)
  | _ => exact FaultCode.noConfusion

theorem execute_of_none {m : Machine} (hm : m.error = 0) {word : Int}
    (h : Instruction.ofWord? word = none) :
    m.execute word = { m with error := FaultCode.unknownOpcode.number } := by
  simp [execute_eq, h, stopIf, hm]

theorem error_execute_eq_unknownOpcode_iff {m : Machine} (hm : m.error = 0) (word : Int) :
    (m.execute word).error = FaultCode.unknownOpcode.number ↔
      Instruction.ofWord? word = none := by
  constructor
  · intro herror
    cases h : Instruction.ofWord? word with
    | none => rfl
    | some i =>
      simp only [execute_eq, h] at herror
      rw [error_perform_of_running hm, FaultCode.number_inj] at herror
      exact absurd herror (faultOf_ne_unknownOpcode m i)
  · intro h
    rw [execute_of_none hm h]

/-- **What is written as unknown is what is refused.**  A running machine does every word of
32 bits, in either mode and from any state.  It ends with the fault of an unknown word exactly
if the word is written as unknown, and these are exactly the words that the table of bit
patterns leaves undefined; nothing but the error byte is changed then. -/
theorem execute?_unknown {m : Machine} (hm : m.error = 0) {word : Int}
    (hw : WidthError.fits word = true) :
    ∃ after, m.execute? word = .ok after ∧
      (Assembly.ofWord word = ⟨"???", []⟩ ↔
        after.error = FaultCode.unknownOpcode.number) ∧
      (Assembly.ofWord word = ⟨"???", []⟩ ↔
        Instruction.Undefined (Fields.lowBits word)) ∧
      (Assembly.ofWord word = ⟨"???", []⟩ →
        after = { m with error := FaultCode.unknownOpcode.number }) := by
  have hwritten : Assembly.ofWord word = ⟨"???", []⟩ ↔ Instruction.ofWord? word = none :=
    Assembly.ofWord_eq_unknown_iff word
  refine ⟨m.execute word, ?_, ?_, ?_, ?_⟩
  · simp only [execute?, WidthError.checkWord, if_pos hw]
    rfl
  · rw [hwritten, error_execute_eq_unknownOpcode_iff hm]
  · rw [hwritten, Instruction.ofWord?_eq_none_iff]
  · intro h
    exact execute_of_none hm (hwritten.1 h)

/-- A negative word whose low bits are in family `8` with a last nibble that has no
operation. -/
theorem execute?_unknown_negative :
    (fresh .modern ⟨0, 0⟩).error = 0 ∧ WidthError.fits (-0x7FF8) = true ∧
      Fields.lowBits (-0x7FF8) = 0x8008 ∧ Assembly.ofWord (-0x7FF8) = ⟨"???", []⟩ ∧
      (fresh .modern ⟨0, 0⟩).execute? (-0x7FF8) =
        .ok { fresh .modern ⟨0, 0⟩ with error := 2 } := by
  have hm : (fresh .modern ⟨0, 0⟩).error = 0 := rfl
  have hw : WidthError.fits (-0x7FF8) = true := by decide
  have hbits : Fields.lowBits (-0x7FF8) = 0x8008 := by decide
  obtain ⟨after, hdone, -, hundefined, hsame⟩ := execute?_unknown hm hw
  have hwritten : Assembly.ofWord (-0x7FF8) = ⟨"???", []⟩ := by
    rw [hundefined, hbits]
    exact Or.inr (Or.inl ⟨by decide, by decide⟩)
  refine ⟨hm, hw, hbits, hwritten, ?_⟩
  rw [hdone, hsame hwritten]
  rfl

end Machine

end ChipEight
