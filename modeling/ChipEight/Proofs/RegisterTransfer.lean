import ChipEight.Proofs.LastWriter
import ChipEight.Proofs.WriteSets

/-!
# Registers to memory and back

Two instructions (`execute_store_registers`, `execute_load_registers`) move the registers up to some
register between the register file and the memory at the index.  A program saves its registers with
one and gets them back with the other, and so both have to mean the same bytes: the same number of
them, at the same addresses, with the same treatment of the addresses that are not there and the
same movement of the index.

* `Machine.getElem_memory_store`, `Machine.getElem_memory_store_of_outside` — what is in memory
  after registers were stored.
* `Machine.register_restore`, `Machine.register_restore_of_lt` — what is in the registers after
  they were restored.
* `Machine.transfer_roundTrip` — storing and restoring, in either order.
-/

namespace ChipEight.Machine

/-! ## The words -/

/-- `0x55` stores and `0x65` restores. -/
theorem execute_store {word : Int} (m : Machine) {x : Nibble}
    (hword : Fields.lowBits word = 0xF055 + 256 * x.val) :
    m.execute word = m.perform (.store x) := by
  have hbyte : 0x55 < 256 := by decide
  have hp : (Instruction.store x).Pattern (Fields.lowBits word) :=
    Fields.fields_of_byte hbyte (by omega)
  exact execute_of_pattern hp

theorem execute_restore {word : Int} (m : Machine) {x : Nibble}
    (hword : Fields.lowBits word = 0xF065 + 256 * x.val) :
    m.execute word = m.perform (.restore x) := by
  have hbyte : 0x65 < 256 := by decide
  have hp : (Instruction.restore x).Pattern (Fields.lowBits word) :=
    Fields.fields_of_byte hbyte (by omega)
  exact execute_of_pattern hp

/-! ## Storing -/

variable {m : Machine} {x : Nibble}

/-- A register that is stored stands as far behind the index as behind the first register. -/
theorem getElem_memory_store {a : Nat} (ha : a < 4096) {r : Nibble} (hr : r ≤ x)
    (hat : a = m.index.toNat + r.val) : (m.perform (.store x)).memory[a] = m.register r := by
  obtain ⟨r, hlt⟩ := r
  have hle : r ≤ x.val := hr
  have hat : a = m.index.toNat + r := hat
  have hlen := m.length_stored x
  have hput := m.memory.getElem_writeAll_of_inside (m.registers.toList.take (x.val + 1)) ha
    (c := m.index.toNat) (by omega) (by omega)
  have hsub : a - m.index.toNat = r := by omega
  rw [hsub, List.getElem?_take_of_lt (by omega), Vector.getElem?_toList,
    Vector.getElem?_eq_getElem hlt] at hput
  simp only [memory_perform, memoryAfter, ← Option.some.inj hput]
  rfl

theorem getElem_memory_store_of_outside {a : Nat} (ha : a < 4096)
    (h : a < m.index.toNat ∨ m.index.toNat + x.val < a) :
    (m.perform (.store x)).memory[a] = m.memory[a] := by
  have hlen := m.length_stored x
  simp only [memory_perform, memoryAfter]
  exact m.memory.getElem_writeAll_of_outside ha (by omega)

/-! ## Restoring -/

/-- A register that is restored is read where it would be stored. -/
theorem register_restore {r : Nibble} (hr : r ≤ x) :
    (m.perform (.restore x)).register r = m.memory.read (m.index.toNat + r.val) := by
  obtain ⟨r, hlt⟩ := r
  have hle : r ≤ x.val := hr
  simp only [register, registers_perform, registersAfter, restored, get_mk, Vector.getElem_ofFn,
    if_pos hle]

theorem register_restore_of_lt {r : Nibble} (hr : x < r) :
    (m.perform (.restore x)).register r = m.register r := by
  rw [register, registers_perform]
  exact get_restored_of_lt hr

/-- Restoring only reads. -/
theorem memory_restore : (m.perform (.restore x)).memory = m.memory := memory_perform ..

/-! ## Both -/

/-- In the legacy dialect the index is left behind the last register. -/
theorem toNat_index_movedIndex (m : Machine) (x : Nibble) :
    (m.movedIndex x).index.toNat =
      if m.mode = .modern then m.index.toNat else (m.index.toNat + x.val + 1) % 65536 := by
  have hx := x.isLt
  cases hmode : m.mode with
  | legacy =>
    simp only [movedIndex, hmode, UInt16.toNat_add, UInt16.toNat_ofNat']
    rw [if_neg (by decide)]
    omega
  | modern => simp only [movedIndex, hmode, if_true]

/-- A transfer is at fault if its last register has no byte.  A fault that is there stays. -/
theorem error_transfer {i : Instruction} (hi : i = .store x ∨ i = .restore x) :
    (m.perform i).error =
      if m.error = 0 ∧ 0xFFF < m.index.toNat + x.val then FaultCode.outOfBounds.number
      else m.error := by
  have hfault : m.faultOf i = if m.reachesOut x.val then .outOfBounds else .clear := by
    rcases hi with rfl | rfl <;> rfl
  by_cases herr : m.error = 0
  · rw [error_perform_of_running herr, hfault]
    by_cases hout : 0xFFF < m.index.toNat + x.val
    · have hreach : m.reachesOut x.val = true := decide_eq_true hout
      rw [if_pos hreach, if_pos ⟨herr, hout⟩]
    · have hreach : ¬ m.reachesOut x.val = true := fun h => hout (of_decide_eq_true h)
      have hneg : ¬ (m.error = 0 ∧ 0xFFF < m.index.toNat + x.val) := fun h => hout h.2
      rw [if_neg hreach, if_neg hneg, herr]
      rfl
  · have hneg : ¬ (m.error = 0 ∧ 0xFFF < m.index.toNat + x.val) := fun h => herr h.1
    rw [error_perform m i herr, if_neg hneg]

/-- The machine with other registers and another index. -/
def overwritten (m : Machine) (registers : Registers) (index : UInt16) : Machine :=
  { m with registers := registers, index := index }

/-- Bytes that were stored come back whatever the registers were in between. -/
theorem register_restore_store (others : Registers) {r : Nibble} (hr : r ≤ x)
    (hin : m.index.toNat + r.val ≤ 0xFFF) :
    (((m.perform (.store x)).overwritten others m.index).perform (.restore x)).register r =
      m.register r := by
  rw [register_restore hr]
  have hread := read_of_le (m.perform (.store x)).memory hin
  exact hread.trans (getElem_memory_store (by omega) hr rfl)

/-- The two transfers agree on what is at fault, so the fault of the first is that of both. -/
theorem error_restore_store (others : Registers) (herr : m.error = 0) :
    (((m.perform (.store x)).overwritten others m.index).perform (.restore x)).error =
      (if 0xFFF < m.index.toNat + x.val then FaultCode.outOfBounds
        else FaultCode.clear).number := by
  have hstored := error_transfer (m := m) (x := x) (Or.inl rfl)
  rw [error_transfer (Or.inr rfl)]
  simp only [overwritten, hstored, herr, true_and]
  by_cases hout : 0xFFF < m.index.toNat + x.val
  · have hkept : ¬ (FaultCode.outOfBounds.number = 0 ∧ 0xFFF < m.index.toNat + x.val) := by
      intro h
      exact absurd h.1 (by decide)
    rw [if_pos hout, if_pos hout, if_neg hkept]
  · rw [if_neg hout, if_neg hout, if_neg (fun h => hout h.2)]
    rfl

/-- Bytes that were restored are stored where they came from.  A register that has no byte was
restored from the last one, but nothing is stored for it. -/
theorem memory_store_restore :
    (((m.perform (.restore x)).overwritten (m.perform (.restore x)).registers m.index).perform
      (.store x)).memory = m.memory := by
  refine Vector.ext fun a ha => ?_
  by_cases hin : m.index.toNat ≤ a ∧ a ≤ m.index.toNat + x.val
  · -- the byte comes from the register that it went to
    obtain ⟨r, rfl⟩ : ∃ r, a = m.index.toNat + r := ⟨a - m.index.toNat, by omega⟩
    have hx := x.isLt
    have hlt : r < 16 := by omega
    have hr : (⟨r, hlt⟩ : Nibble) ≤ x := Fin.le_def.2 (by simp only; omega)
    have hstored := getElem_memory_store (x := x)
      (m := (m.perform (.restore x)).overwritten (m.perform (.restore x)).registers m.index)
      ha hr rfl
    have hrestored : (m.perform (.restore x)).register ⟨r, hlt⟩ =
        m.memory.read (m.index.toNat + r) := register_restore hr
    exact hstored.trans (hrestored.trans (read_of_le m.memory (by omega)))
  · have hkept : ((m.perform (.restore x)).overwritten (m.perform (.restore x)).registers
        m.index).memory = m.memory := memory_restore
    refine (getElem_memory_store_of_outside ha ?_).trans (by simp only [hkept])
    show a < m.index.toNat ∨ m.index.toNat + x.val < a
    omega

/-- **Registers come back from memory as they went there.**  Whatever the registers were in
between, those up to `x` that have a byte in memory come back and the others keep what they were
overwritten with; memory changes at most in their window, the index moves only in the legacy
dialect, and it is a fault exactly if the last register has no byte.  The other way round, storing
what was just restored changes no memory, wherever the index points. -/
theorem transfer_roundTrip (m : Machine) (x : Nibble) (others : Registers) {save load : Int}
    (hsave : Fields.lowBits save = 0xF055 + 256 * x.val)
    (hload : Fields.lowBits load = 0xF065 + 256 * x.val) :
    let i := m.index.toNat
    let back := ((m.execute save).overwritten others m.index).execute load
    (∀ r ≤ x, i + r.val ≤ 0xFFF → back.register r = m.register r) ∧
    (∀ r, x < r → back.register r = others.get r) ∧
    (∀ a : Address, a.val < i ∨ i + x.val < a.val → back.memory.get a = m.memory.get a) ∧
    (back.index.toNat = if m.mode = .modern then i else (i + x.val + 1) % 65536) ∧
    (m.error = 0 → back.error =
      (if 0xFFF < i + x.val then FaultCode.outOfBounds else FaultCode.clear).number) ∧
    (((m.execute load).overwritten (m.execute load).registers m.index).execute save).memory =
      m.memory := by
  intro i back
  have hback : back =
      ((m.perform (.store x)).overwritten others m.index).perform (.restore x) := by
    rw [← execute_store m hsave, ← execute_restore _ hload]
  have hmode : (m.perform (.store x)).mode = m.mode := by rw [perform_eq]
  rw [hback]
  refine ⟨fun r hr hin => register_restore_store others hr hin, fun r hr => ?_, ?_, ?_, ?_, ?_⟩
  · exact register_restore_of_lt hr
  · rintro ⟨a, ha⟩ hout
    rw [memory_restore]
    exact getElem_memory_store_of_outside ha hout
  · rw [index_perform]
    refine (toNat_index_movedIndex _ x).trans ?_
    simp only [overwritten, hmode, i]
  · intro herr
    exact error_restore_store others herr
  · rw [execute_store _ hsave, execute_restore m hload]
    exact memory_store_restore

/-- Four registers at the end of memory, where only three of them have a byte. -/
theorem transfer_roundTrip_pastEnd :
    let m := { fresh .legacy ⟨0, 0⟩ with
      index := 0xFFD
      registers := Vector.ofFn fun r => UInt8.ofNat (0xA0 + r.val) }
    let back := ((m.execute 0xF355).overwritten (Vector.replicate 16 0) m.index).execute 0xF365
    Fields.lowBits 0xF355 = 0xF055 + 256 * (3 : Nibble).val ∧
      Fields.lowBits 0xF365 = 0xF065 + 256 * (3 : Nibble).val ∧
      back.register 2 = 0xA2 ∧ back.register 4 = 0 ∧ back.index.toNat = 0x1001 ∧
      back.error = FaultCode.outOfBounds.number := by
  intro m back
  have hsave : Fields.lowBits 0xF355 = 0xF055 + 256 * (3 : Nibble).val := by decide
  have hload : Fields.lowBits 0xF365 = 0xF065 + 256 * (3 : Nibble).val := by decide
  have h := transfer_roundTrip m 3 (Vector.replicate 16 0) hsave hload
  obtain ⟨hlow, hhigh, -, hindex, herror, -⟩ := h
  refine ⟨hsave, hload, ?_, ?_, ?_, ?_⟩
  · exact hlow 2 (by decide) (by decide)
  · exact hhigh 4 (by decide)
  · exact hindex
  · exact herror rfl

end ChipEight.Machine
