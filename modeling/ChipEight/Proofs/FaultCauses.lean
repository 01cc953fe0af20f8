import ChipEight.Proofs.CallStack
import ChipEight.Proofs.CycleCases
import ChipEight.Proofs.InstructionTable

/-!
# What makes a cycle go wrong

The causes of faults, said about the two bytes at the program counter and the fields of the state as
they are before the cycle, with no word about how instructions do their work: `Machine.Faults` has
one case for each cause that `fetch` or an instruction hands to `flag`.  The development shows that
the list is exact and that the priorities between the causes are the ones it suggests: a fetch past
the end of memory comes before anything the clipped word could do.

* `Machine.nextFault_of_faults` — a cause makes the next cycle end with its code;
* `Machine.faults_nextFault` — a cycle that ends with a code had a cause for it.
-/

namespace ChipEight.Machine

open Instruction

/-! ## The word at the program counter -/

/-- `m.Fetches w`: a whole word stands at the program counter, and it is `w`. -/
def Fetches (m : Machine) (w : Nat) : Prop :=
  ∃ h : m.pc.toNat + 1 ≤ 0xFFF,
    w = m.memory[m.pc.toNat].toNat * 256 + m.memory[m.pc.toNat + 1].toNat

theorem read_of_le (memory : Memory) {a : Nat} (h : a ≤ 0xFFF) : memory.read a = memory[a] := by
  simp only [Memory.read, Nat.min_eq_left h]

theorem fetches_iff {m : Machine} {w : Nat} :
    m.Fetches w ↔ m.hasWord = true ∧ w = m.word := by
  simp only [Fetches, hasWord, word, decide_eq_true_eq]
  constructor
  · rintro ⟨h, rfl⟩
    exact ⟨by omega, by rw [read_of_le _ h, read_of_le _ (by omega)]⟩
  · rintro ⟨h, rfl⟩
    exact ⟨by omega, by rw [read_of_le _ (by omega), read_of_le _ (by omega)]⟩

theorem word_lt (m : Machine) : m.word < 65536 := by
  have h1 := (m.memory.read m.pc.toNat).toNat_lt
  have h2 := (m.memory.read (m.pc.toNat + 1)).toNat_lt
  unfold word
  omega

theorem lowBits_word (m : Machine) : Fields.lowBits m.word = m.word :=
  Fields.lowBits_natCast m.word_lt

theorem ofWord?_of_fetches {m : Machine} {w : Nat} {i : Instruction} (hw : m.Fetches w)
    (hi : i.Pattern w) : ofWord? m.word = some i := by
  obtain ⟨-, rfl⟩ := fetches_iff.1 hw
  exact ofWord?_of_pattern (by rwa [lowBits_word])

theorem pattern_of_fetches {m : Machine} {w : Nat} {i : Instruction} (hw : m.Fetches w)
    (hi : ofWord? m.word = some i) : i.Pattern w := by
  obtain ⟨-, rfl⟩ := fetches_iff.1 hw
  have hp := pattern_of_ofWord? hi
  rwa [lowBits_word] at hp

/-- A cycle that goes well does the instruction the table has for the word. -/
theorem executes_of_pattern {m : Machine} {w : Nat} {i : Instruction} (h : m.cycle.error = 0)
    (hw : m.Fetches w) (hi : i.Pattern w) : m.Executes i := by
  obtain ⟨j, hj⟩ := executes_of_error_cycle h
  have hr := hj.reads
  rw [ofWord?_of_fetches hw hi] at hr
  cases hr
  exact hj

/-- A cycle that does an instruction fetched a word with its pattern. -/
theorem Executes.fetches {m : Machine} {i : Instruction} (h : m.Executes i) :
    m.Fetches m.word ∧ i.Pattern m.word := by
  have hw : m.Fetches m.word := fetches_iff.2 ⟨h.whole, rfl⟩
  exact ⟨hw, pattern_of_fetches hw h.reads⟩

theorem undefined_iff_of_fetches {m : Machine} {w : Nat} (hw : m.Fetches w) :
    ofWord? m.word = none ↔ Undefined w := by
  obtain ⟨-, rfl⟩ := fetches_iff.1 hw
  rw [ofWord?_eq_none_iff, lowBits_word]

/-! ## The causes -/

/-- Why the next cycle goes wrong, with the code it then ends with. -/
inductive Faults (m : Machine) : FaultCode → Prop
  /-- No whole word stands at the program counter. -/
  | pastEnd (h : 0xFFF < m.pc.toNat + 1) : Faults m .outOfBounds
  /-- The last row of a sprite is past the end of memory. -/
  | sprite {w : Nat} (hw : m.Fetches w) (hf : w / 4096 = 0xD) (hn : 0 < w % 16)
      (ho : 0xFFF < m.index.toNat + w % 16 - 1) : Faults m .outOfBounds
  /-- The last of three digits is past the end of memory. -/
  | digits {w : Nat} (hw : m.Fetches w) (hf : w / 4096 = 0xF) (hb : w % 256 = 0x33)
      (ho : 0xFFF < m.index.toNat + 2) : Faults m .outOfBounds
  /-- The last of the registers to be moved is past the end of memory. -/
  | transfer {w : Nat} (hw : m.Fetches w) (hf : w / 4096 = 0xF)
      (hb : w % 256 = 0x55 ∨ w % 256 = 0x65)
      (ho : 0xFFF < m.index.toNat + w / 256 % 16) : Faults m .outOfBounds
  /-- A call, and the stack is full. -/
  | overflow {w : Nat} (hw : m.Fetches w) (hf : w / 4096 = 0x2)
      (hd : m.stack.depth.toNat = 16) : Faults m .stackOverflow
  /-- A return, and the stack is empty. -/
  | underflow {w : Nat} (hw : m.Fetches w) (hf : w / 4096 = 0x0) (hb : w % 256 = 0xEE)
      (hd : m.stack.depth.toNat = 0) : Faults m .stackUnderflow
  /-- A word that is not in the table. -/
  | unknown {w : Nat} (hw : m.Fetches w) (hu : Undefined w) : Faults m .unknownOpcode

theorem nextFault_of_pattern {m : Machine} {w : Nat} {i : Instruction} (hw : m.Fetches w)
    (hi : i.Pattern w) : m.nextFault = m.faultOf i := by
  rw [nextFault, if_pos (fetches_iff.1 hw).1, ofWord?_of_fetches hw hi]

theorem nextFault_of_undefined {m : Machine} {w : Nat} (hw : m.Fetches w) (hu : Undefined w) :
    m.nextFault = .unknownOpcode := by
  rw [nextFault, if_pos (fetches_iff.1 hw).1, (undefined_iff_of_fetches hw).2 hu]

/-- Every cause has its effect. -/
theorem nextFault_of_faults {m : Machine} {code : FaultCode} (h : m.Faults code) :
    m.nextFault = code := by
  cases h with
  | pastEnd h =>
    have hw : m.hasWord = false := by
      simp only [hasWord, decide_eq_false_iff_not]
      omega
    simp [nextFault, hw]
  | @sprite w hw hf hn ho =>
    have hi : (Instruction.draw (Fin.ofNat 16 (w / 256)) (Fin.ofNat 16 (w / 16))
        (Fin.ofNat 16 w)).Pattern w := ⟨hf, rfl, rfl, rfl⟩
    rw [nextFault_of_pattern hw hi, faultOf, if_pos]
    simp only [Fin.val_ofNat, decide_eq_true_eq]
    omega
  | @digits w hw hf hb ho =>
    have hi : (decimal (Fin.ofNat 16 (w / 256))).Pattern w := ⟨hf, rfl, hb⟩
    rw [nextFault_of_pattern hw hi, faultOf, if_pos]
    simp only [reachesOut, decide_eq_true_eq]
    omega
  | @transfer w hw hf hb ho =>
    have hout : m.reachesOut (Fin.ofNat 16 (w / 256)).val = true := by
      simp only [reachesOut, Fin.val_ofNat, decide_eq_true_eq]
      omega
    rcases hb with hb | hb
    · have hi : (store (Fin.ofNat 16 (w / 256))).Pattern w := ⟨hf, rfl, hb⟩
      rw [nextFault_of_pattern hw hi, faultOf, if_pos hout]
    · have hi : (restore (Fin.ofNat 16 (w / 256))).Pattern w := ⟨hf, rfl, hb⟩
      rw [nextFault_of_pattern hw hi, faultOf, if_pos hout]
  | @overflow w hw hf hd =>
    have hi : (call (Fin.ofNat 4096 w)).Pattern w := ⟨hf, rfl⟩
    rw [nextFault_of_pattern hw hi, faultOf, if_pos ((Stack.isFull_iff _).2 (by omega))]
  | underflow hw hf hb hd =>
    have hi : ret.Pattern _ := ⟨hf, hb⟩
    rw [nextFault_of_pattern hw hi, faultOf, if_pos ((Stack.isEmpty_iff _).2 hd)]
  | unknown hw hu => exact nextFault_of_undefined hw hu

/-! ## Every fault has a cause -/

/-- A fault under a condition has a cause if the condition is one. -/
theorem faults_ite {m : Machine} {b : Bool} {code : FaultCode}
    (hf : (if b then code else .clear) ≠ .clear) (h : b = true → m.Faults code) :
    m.Faults (if b then code else .clear) := by
  cases b with
  | true => exact h rfl
  | false => exact absurd rfl hf

theorem faults_of_faultOf {m : Machine} {w : Nat} {i : Instruction}
    (hd : m.stack.depth.toNat ≤ 16) (hw : m.Fetches w) (hi : i.Pattern w)
    (hf : m.faultOf i ≠ .clear) : m.Faults (m.faultOf i) := by
  cases i with
  | ret => exact faults_ite hf fun h => .underflow hw hi.1 hi.2 ((Stack.isEmpty_iff _).1 h)
  | call a =>
    refine faults_ite hf fun h => .overflow hw hi.1 ?_
    have hfull := (Stack.isFull_iff _).1 h
    omega
  | draw x y rows =>
    obtain ⟨hfam, -, -, hn⟩ := hi
    refine faults_ite hf fun h => ?_
    have hout := of_decide_eq_true h
    exact .sprite hw hfam (by omega) (by omega)
  | decimal x =>
    refine faults_ite hf fun h => .digits hw hi.1 hi.2.2 ?_
    have hout := of_decide_eq_true h
    omega
  | store x =>
    obtain ⟨hfam, hx, hb⟩ := hi
    refine faults_ite hf fun h => .transfer hw hfam (Or.inl hb) ?_
    have hout := of_decide_eq_true h
    omega
  | restore x =>
    obtain ⟨hfam, hx, hb⟩ := hi
    refine faults_ite hf fun h => .transfer hw hfam (Or.inr hb) ?_
    have hout := of_decide_eq_true h
    omega
  | _ => exact absurd rfl hf

/-- Every effect has its cause. -/
theorem faults_nextFault {m : Machine} (hd : m.stack.depth.toNat ≤ 16)
    (hf : m.nextFault ≠ .clear) : m.Faults m.nextFault := by
  by_cases hh : m.hasWord = true
  · have hw : m.Fetches m.word := fetches_iff.2 ⟨hh, rfl⟩
    cases hr : ofWord? m.word with
    | some i =>
      have hi := pattern_of_fetches hw hr
      rw [nextFault_of_pattern hw hi] at hf ⊢
      exact faults_of_faultOf hd hw hi hf
    | none =>
      have hu := (undefined_iff_of_fetches hw).1 hr
      rw [nextFault_of_undefined hw hu]
      exact .unknown hw hu
  · rw [nextFault, if_neg hh]
    refine .pastEnd ?_
    simp only [hasWord, decide_eq_true_eq] at hh
    omega

theorem Faults.ne_clear {m : Machine} {code : FaultCode} (h : m.Faults code) :
    code ≠ .clear := by
  cases h <;> decide

/-! ## The classification -/

/-- **When a cycle goes wrong, and what it then leaves.**  A running machine ends its next
cycle with a code exactly when there is a cause for that code; all it then keeps of the
cycle is the code.  Without a cause it ends without a fault, and a stopped machine stays
where it is. -/
theorem cycle_classification (m : Machine) :
    (m.error = 0 → m.stack.depth.toNat ≤ 16 →
      (∀ code, m.Faults code ↔ code ≠ .clear ∧ m.cycle.error = code.number) ∧
      (∀ code, m.Faults code → m.cycle = { m with error := code.number }) ∧
      ((¬ ∃ code, m.Faults code) → m.cycle.error = 0)) ∧
    (m.error ≠ 0 → m.cycle = m) := by
  constructor
  · intro hr hd
    refine ⟨fun code => ?_, fun code h => ?_, fun h => ?_⟩
    · constructor
      · intro h
        exact ⟨h.ne_clear, by rw [error_cycle_of_running hr, nextFault_of_faults h]⟩
      · rintro ⟨hne, hcode⟩
        rw [error_cycle_of_running hr, FaultCode.number_inj] at hcode
        subst hcode
        exact faults_nextFault hd hne
    · have hnext := nextFault_of_faults h
      rw [cycle_of_fault hr (hnext ▸ h.ne_clear), hnext]
    · rw [error_cycle_of_running hr, FaultCode.number_eq_zero_iff]
      exact Decidable.byContradiction fun hne => h ⟨_, faults_nextFault hd hne⟩
  · intro he
    exact cycle_of_halted m (by simpa [halted] using he)

/-- A machine that is about to draw two rows, the second of which is past the end of memory. -/
def drawingPastEnd : Machine :=
  { Machine.fresh .legacy ⟨0, 0⟩ with
    index := 0xFFF
    memory := (Memory.fresh.write 0x200 0xD0).write 0x201 0x02 }

theorem cycle_classification_drawingPastEnd :
    drawingPastEnd.error = 0 ∧ drawingPastEnd.stack.depth.toNat ≤ 16 ∧
      drawingPastEnd.cycle = { drawingPastEnd with error := 1 } ∧
      drawingPastEnd.cycle.cycle = drawingPastEnd.cycle := by
  have hword : drawingPastEnd.Fetches 0xD002 := ⟨by decide, by decide +kernel⟩
  have hcause : drawingPastEnd.Faults .outOfBounds :=
    .sprite hword (by decide) (by decide) (by decide)
  obtain ⟨-, hcycle, -⟩ := (cycle_classification drawingPastEnd).1 rfl (by decide)
  have hone := hcycle _ hcause
  refine ⟨rfl, by decide, hone, (cycle_classification drawingPastEnd.cycle).2 ?_⟩
  rw [hone]
  decide

end ChipEight.Machine
