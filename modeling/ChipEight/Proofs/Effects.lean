import ChipEight.Machine.Cycle
import ChipEight.Proofs.InstructionTable

/-!
# What instructions leave behind, field by field

`Machine.perform`, which has the bodies of all instructions, builds a whole state.  Proofs about
runs ask for one field of it at a time, so every field is given here as a function of the state
before and of the instruction:

* `Machine.error_perform_of_running` — the fault an instruction records in a running
  machine is `Machine.faultOf`;
* `Machine.memoryAfter`, `Machine.registersAfter`, `Machine.stackAfter`, ... — the other
  fields, each with one line for every instruction that has a say in it;
* `Machine.perform_eq` — the state after an instruction is made of these; the mode and the
  keypad stay;
* `Machine.redraw_perform`, `Machine.screen_perform` — only a clear and a draw touch the
  screen, and both say so.
-/

namespace ChipEight

/-- Whether an instruction touches the screen. -/
def Instruction.paints : Instruction → Bool
  | .clear => true
  | .draw _ _ _ => true
  | _ => false

namespace Machine

/-! ## The parts instructions are made of -/

/-- A word does the instruction the table has for it. -/
theorem execute_of_pattern {m : Machine} {word : Int} {i : Instruction}
    (h : i.Pattern (Fields.lowBits word)) : m.execute word = m.perform i := by
  rw [execute_eq, Instruction.ofWord?_of_pattern h]

/-- What `stopIf` leaves in the error byte of a running machine. -/
theorem error_stopIf {m : Machine} (h : m.error = 0) (b : Bool) (code : FaultCode) :
    (m.stopIf b code).error = (if b then code else .clear).number := by
  cases b <;> simp [stopIf, h, FaultCode.number]

theorem stopIf_false (m : Machine) (code : FaultCode) : m.stopIf false code = m := by
  simp [stopIf]

/-- Moving the index moves nothing else. -/
theorem movedIndex_eq (m : Machine) (x : Nibble) :
    m.movedIndex x = { m with index := (m.movedIndex x).index } := by
  unfold movedIndex
  split <;> rfl

/-- A result and its flag go to the registers. -/
theorem putResult_eq (m : Machine) (x : Nibble) (r : Arithmetic.Result) :
    m.putResult x r = { m with registers := (m.putResult x r).registers } := by
  unfold putResult
  split <;> rfl

/-! ## The error byte -/

/-- The fault an instruction records if nothing was recorded before. -/
def faultOf (m : Machine) : Instruction → FaultCode
  | .ret => if m.stack.isEmpty then .stackUnderflow else .clear
  | .call _ => if m.stack.isFull then .stackOverflow else .clear
  | .draw _ _ rows =>
    if decide (0 < rows.val ∧ 4096 < m.index.toNat + rows.val) then .outOfBounds else .clear
  | .decimal _ => if m.reachesOut 2 then .outOfBounds else .clear
  | .store x => if m.reachesOut x.val then .outOfBounds else .clear
  | .restore x => if m.reachesOut x.val then .outOfBounds else .clear
  | _ => .clear

theorem error_perform_of_running {m : Machine} (h : m.error = 0) (i : Instruction) :
    (m.perform i).error = (m.faultOf i).number := by
  cases i with
  | ret => exact error_stopIf h _ _
  | call a => exact error_stopIf h _ _
  | draw x y rows => exact error_stopIf h _ _
  | decimal x => exact error_stopIf h _ _
  | store x =>
    refine error_stopIf ?_ _ _
    rw [movedIndex_eq]
    exact h
  | restore x =>
    refine error_stopIf ?_ _ _
    rw [movedIndex_eq]
    exact h
  | alu op x y =>
    simp only [perform]
    rw [putResult_eq]
    exact h
  | awaitKey x =>
    simp only [perform]
    split <;> exact h
  | _ => exact h

/-! ## The other fields -/

/-- The memory an instruction leaves behind. -/
def memoryAfter (m : Machine) : Instruction → Memory
  | .decimal x => m.memory.writeAll m.index.toNat (decimalDigits (m.register x))
  | .store x => m.memory.writeAll m.index.toNat (m.registers.toList.take (x.val + 1))
  | _ => m.memory

/-- Where the index points after an instruction. -/
def indexAfter (m : Machine) : Instruction → UInt16
  | .setIndex a => UInt16.ofNat a.val
  | .addIndex x => m.index + (m.register x).toUInt16
  | .glyph x => (m.register x).toUInt16 * 5
  | .store x => (m.movedIndex x).index
  | .restore x => (m.movedIndex x).index
  | _ => m.index

/-- The registers an instruction leaves behind. -/
def registersAfter (m : Machine) : Instruction → Registers
  | .load x b => (m.setRegister x b).registers
  | .increase x b => (m.setRegister x (m.register x + b)).registers
  | .alu op x y =>
    (m.putResult x (op.apply m.mode (m.register x) (m.register y))).registers
  | .random x mask => (m.setRegister x (m.key.byte &&& mask)).registers
  | .draw x y rows =>
    (m.setRegister 15 (Arithmetic.bit ((m.sprite x y rows).hits m.memory m.screen))).registers
  | .readDelay x => (m.setRegister x m.delay).registers
  | .awaitKey x =>
    match m.keypad.lowest? with
    | none => m.registers
    | some k => (m.setRegister x (UInt8.ofNat k.val)).registers
  | .restore x => m.restored x
  | _ => m.registers

/-- The stack an instruction leaves behind. -/
def stackAfter (m : Machine) : Instruction → Stack
  | .ret => m.stack.pop.1
  | .call _ => m.stack.push m.pc
  | _ => m.stack

/-- Where the machine goes on after an instruction. -/
def pcAfter (m : Machine) : Instruction → UInt16
  | .ret => m.stack.pop.2 + 2
  | .jump a => UInt16.ofNat a.val
  | .call a => UInt16.ofNat a.val
  | .skipIf t => if m.holds t then m.pc + 4 else m.pc + 2
  | .jumpOffset a => UInt16.ofNat a.val + (m.register (offsetRegister m.mode a)).toUInt16
  | .awaitKey _ => if m.keypad.lowest?.isSome then m.pc + 2 else m.pc
  | _ => m.pc + 2

/-- The random key an instruction leaves behind. -/
def keyAfter (m : Machine) : Instruction → Random.Key
  | .random _ _ => m.key.next
  | _ => m.key

/-- The delay timer after an instruction, before it ticks. -/
def delayAfter (m : Machine) : Instruction → UInt8
  | .setDelay x => m.register x
  | _ => m.delay

/-- The sound timer after an instruction, before it ticks. -/
def soundAfter (m : Machine) : Instruction → UInt8
  | .setSound x => m.register x
  | _ => m.sound

/-- The screen an instruction leaves behind. -/
def screenAfter (m : Machine) : Instruction → Screen
  | .clear => Screen.dark
  | .draw x y rows => (m.sprite x y rows).flip m.memory m.screen
  | _ => m.screen

/-- Whether the screen waits to be shown after an instruction. -/
def redrawAfter (m : Machine) : Instruction → Bool
  | .clear => true
  | .draw _ _ _ => true
  | _ => m.redraw

/-- **The state after an instruction, field by field.**  Of the error byte see
`error_perform_of_running`. -/
theorem perform_eq (m : Machine) (i : Instruction) :
    m.perform i =
      { m with
        memory := m.memoryAfter i
        pc := m.pcAfter i
        index := m.indexAfter i
        registers := m.registersAfter i
        stack := m.stackAfter i
        key := m.keyAfter i
        delay := m.delayAfter i
        sound := m.soundAfter i
        screen := m.screenAfter i
        redraw := m.redrawAfter i
        error := (m.perform i).error } := by
  cases i with
  | skipIf t =>
    simp only [perform, pcAfter]
    split <;> rfl
  | awaitKey x =>
    simp only [perform, pcAfter, registersAfter]
    cases m.keypad.lowest? <;> rfl
  | alu op x y =>
    simp only [perform]
    rw [putResult_eq]
    rfl
  | store x =>
    simp only [perform, indexAfter, movedIndex]
    split <;> rfl
  | restore x =>
    -- which bytes are restored has no part in this
    simp only [perform, indexAfter, registersAfter, movedIndex]
    generalize m.restored x = registers
    split <;> rfl
  | _ => rfl

theorem stack_perform (m : Machine) (i : Instruction) :
    (m.perform i).stack = m.stackAfter i := by
  rw [perform_eq]

theorem pc_perform (m : Machine) (i : Instruction) : (m.perform i).pc = m.pcAfter i := by
  rw [perform_eq]

theorem memory_perform (m : Machine) (i : Instruction) :
    (m.perform i).memory = m.memoryAfter i := by
  rw [perform_eq]

theorem index_perform (m : Machine) (i : Instruction) :
    (m.perform i).index = m.indexAfter i := by
  rw [perform_eq]

theorem registers_perform (m : Machine) (i : Instruction) :
    (m.perform i).registers = m.registersAfter i := by
  rw [perform_eq]

/-! ## The screen -/

/-- What touches the screen asks for it to be shown; nothing else does, and nothing takes
that back. -/
theorem redraw_perform (m : Machine) (i : Instruction) :
    (m.perform i).redraw = (m.redraw || i.paints) := by
  rw [perform_eq]
  cases i <;> simp [redrawAfter, Instruction.paints]

theorem screen_perform {m : Machine} {i : Instruction} (h : i.paints = false) :
    (m.perform i).screen = m.screen := by
  rw [perform_eq]
  cases i with
  | clear | draw x y rows => cases h
  | _ => rfl

end Machine

end ChipEight
