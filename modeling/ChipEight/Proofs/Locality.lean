import ChipEight.Proofs.FaultCauses

/-!
# The memory a cycle depends on

A cycle reads the word at the program counter (`fetch`), and a few instructions also read or write
bytes at the index: the rows of a sprite, three decimal digits, or one byte for each register
that is moved.  All other memory might as well not be there.  A byte changed outside of these
two places is still changed after the cycle, and it changes nothing else.

* `Instruction.operandBytesOfWord` — how many bytes at the index a word is about, and
  `Instruction.operandBytes` — the same for an instruction.
* `Machine.perform_setByte` — an instruction that can be done whole does not see a byte
  outside of them.
* `Machine.cycle_setByte` — neither does a cycle, whether it ends with a fault or not.
-/

namespace ChipEight

/-! ## Memory with another byte -/

namespace Memory

theorem read_write_of_ne (m : Memory) {a i : Nat} (b : UInt8) (h : a ≠ min i 4095) :
    (m.write a b).read i = m.read i := by
  have hi : min i 4095 < 4096 := by omega
  rw [read, read, getElem_write, if_neg h]

theorem write_write_of_ne (m : Memory) {a c : Nat} (b d : UInt8) (h : a ≠ c) :
    (m.write a b).write c d = (m.write c d).write a b := by
  refine Vector.ext fun i hi => ?_
  simp only [getElem_write]
  by_cases hai : a = i
  · have hci : c ≠ i := fun hc => h (hai.trans hc.symm)
    rw [if_neg hci, if_pos hai, if_pos hai]
  · rw [if_neg hai, if_neg hai]

/-- A byte outside of those that are written can be changed before or after them. -/
theorem writeAll_write_of_outside (m : Memory) {a c : Nat} (b : UInt8) (bytes : List UInt8)
    (h : a < c ∨ c + bytes.length ≤ a) :
    (m.write a b).writeAll c bytes = (m.writeAll c bytes).write a b := by
  induction bytes generalizing m c with
  | nil => rfl
  | cons d rest ih =>
    rw [List.length_cons] at h
    rw [writeAll, writeAll, write_write_of_ne m b d (by omega), ih _ (by omega)]

end Memory

/-- A sprite covers the same cells if its rows did not change. -/
theorem Sprite.covers_write_of_outside (s : Sprite) (memory : Memory) {a : Nat} (b : UInt8)
    (hin : s.rows = 0 ∨ s.base + s.rows ≤ 4096) (h : a < s.base ∨ s.base + s.rows ≤ a)
    (cell : Nat) : s.covers (memory.write a b) cell = s.covers memory cell := by
  simp only [covers]
  by_cases hs : s.spans (cell % 64) (cell / 64) = true
  · have hrow := of_decide_eq_true hs
    have hne : a ≠ min (s.base + (cell / 64 - s.top)) 4095 := by omega
    rw [Memory.read_write_of_ne memory b hne]
  · simp only [hs, Bool.false_and]

namespace Instruction

/-- How many bytes at the index an instruction reads or writes. -/
def operandBytes : Instruction → Nat
  | .draw _ _ rows => rows.val
  | .decimal _ => 3
  | .store x => x.val + 1
  | .restore x => x.val + 1
  | _ => 0

/-- The same for a word, by its digits: rows of a sprite, decimal digits, moved registers. -/
def operandBytesOfWord (w : Nat) : Nat :=
  if w / 4096 = 0xD then w % 16
  else if w / 4096 = 0xF ∧ w % 256 = 0x33 then 3
  else if w / 4096 = 0xF ∧ (w % 256 = 0x55 ∨ w % 256 = 0x65) then w / 256 % 16 + 1
  else 0

theorem operandBytesOfWord_of_pattern {i : Instruction} {w : Nat} (h : i.Pattern w) :
    operandBytesOfWord w = i.operandBytes := by
  cases i with
  | skipIf t =>
    cases t <;> simp only [Pattern, Test.Pattern] at h <;>
      simp [operandBytesOfWord, operandBytes, h]
  | _ =>
    simp only [Pattern] at h
    simp [operandBytesOfWord, operandBytes, h]

end Instruction

namespace Machine

/-- The machine with another byte at an address. -/
def setByte (m : Machine) (a : Nat) (b : UInt8) : Machine :=
  { m with memory := m.memory.write a b }

@[simp] theorem error_setByte (m : Machine) (a : Nat) (b : UInt8) :
    (m.setByte a b).error = m.error := rfl

/-! ## Instructions -/

theorem next_stopIf_setByte (m : Machine) (a : Nat) (b : UInt8) (condition : Bool)
    (code : FaultCode) :
    ((m.setByte a b).stopIf condition code).next =
      ((m.stopIf condition code).next).setByte a b := rfl

theorem movedIndex_setByte (m : Machine) (a : Nat) (b : UInt8) (x : Nibble) :
    (m.setByte a b).movedIndex x = (m.movedIndex x).setByte a b := by
  unfold movedIndex
  cases hmode : m.mode <;> simp only [setByte, hmode]

theorem putResult_setByte (m : Machine) (a : Nat) (b : UInt8) (x : Nibble)
    (r : Arithmetic.Result) :
    (m.setByte a b).putResult x r = (m.putResult x r).setByte a b := by
  unfold putResult
  split <;> rfl

section Outside

variable {m : Machine} {a : Nat} (b : UInt8)

theorem draw_setByte {x y rows : Nibble}
    (hin : rows.val = 0 ∨ m.index.toNat + rows.val ≤ 4096)
    (h : a < m.index.toNat ∨ m.index.toNat + rows.val ≤ a) :
    (m.setByte a b).draw x y rows = (m.draw x y rows).setByte a b := by
  have hcovers := (m.sprite x y rows).covers_write_of_outside m.memory b hin h
  have hflip : (m.sprite x y rows).flip (m.memory.write a b) m.screen =
      (m.sprite x y rows).flip m.memory m.screen := by
    simp only [Sprite.flip, hcovers]
  have hhits : (m.sprite x y rows).hits (m.memory.write a b) m.screen =
      (m.sprite x y rows).hits m.memory m.screen := by
    simp only [Sprite.hits, hcovers]
  have hsprite : (m.setByte a b).sprite x y rows = m.sprite x y rows := rfl
  unfold draw
  rw [hsprite]
  simp only [setByte, hflip, hhits]
  rfl

theorem restored_setByte {x : Nibble} (hin : m.index.toNat + x.val < 4096)
    (h : a < m.index.toNat ∨ m.index.toNat + (x.val + 1) ≤ a) :
    (m.setByte a b).restored x = m.restored x := by
  refine Vector.ext fun r hr => ?_
  simp only [restored, Vector.getElem_ofFn]
  split
  · have hne : a ≠ min (m.index.toNat + r) 4095 := by omega
    exact Memory.read_write_of_ne m.memory b hne
  · rfl

theorem writeAll_setByte (bytes : List UInt8)
    (h : a < m.index.toNat ∨ m.index.toNat + bytes.length ≤ a) :
    { m.setByte a b with
        memory := (m.setByte a b).memory.writeAll m.index.toNat bytes } =
      { m with memory := m.memory.writeAll m.index.toNat bytes }.setByte a b := by
  simp only [setByte, Memory.writeAll_write_of_outside m.memory b bytes h]

/-- **An instruction that can be done whole does not see a byte outside of its own.** -/
theorem perform_setByte {i : Instruction} (hok : m.faultOf i = .clear)
    (h : a < m.index.toNat ∨ m.index.toNat + i.operandBytes ≤ a) :
    (m.setByte a b).perform i = (m.perform i).setByte a b := by
  cases i with
  | draw x y rows =>
    have hfault := of_decide_eq_false (FaultCode.eq_false_of_ite (by decide) hok)
    exact draw_setByte b (by omega) h
  | decimal x =>
    have hwritten := writeAll_setByte b (decimalDigits (m.register x)) h
    exact (congrArg (fun d => (d.stopIf (m.reachesOut 2) .outOfBounds).next) hwritten).trans
      (next_stopIf_setByte ..)
  | store x =>
    have hlen : (m.registers.toList.take (x.val + 1)).length = x.val + 1 := by
      have hx := x.isLt
      simp only [List.length_take, Vector.length_toList]
      omega
    have hwritten := writeAll_setByte b (m.registers.toList.take (x.val + 1))
      (by rw [hlen]; exact h)
    have hmoved := (congrArg (fun d => d.movedIndex x) hwritten).trans (movedIndex_setByte ..)
    exact (congrArg (fun d => (d.stopIf (m.reachesOut x.val) .outOfBounds).next) hmoved).trans
      (next_stopIf_setByte ..)
  | restore x =>
    have hout := of_decide_eq_false (FaultCode.eq_false_of_ite (by decide) hok)
    have hrestored : (m.setByte a b).restored x = m.restored x :=
      restored_setByte b (by omega) h
    have hmoved := movedIndex_setByte { m with registers := m.restored x } a b x
    simp only [perform, hrestored]
    exact (congrArg (fun d => (d.stopIf (m.reachesOut x.val) .outOfBounds).next) hmoved).trans
      (next_stopIf_setByte ..)
  | alu op x y => exact congrArg next (putResult_setByte m a b x _)
  | awaitKey x =>
    simp only [perform, setByte]
    split <;> rfl
  | _ => rfl

/-! ## Cycles -/

theorem faultOf_setByte (i : Instruction) : (m.setByte a b).faultOf i = m.faultOf i := by
  cases i <;> rfl

theorem word_setByte (hw : m.hasWord = true) (hpc : a ≠ m.pc.toNat)
    (hpc' : a ≠ m.pc.toNat + 1) : (m.setByte a b).word = m.word := by
  have hin := of_decide_eq_true hw
  have hhigh : (m.memory.write a b).read m.pc.toNat = m.memory.read m.pc.toNat :=
    Memory.read_write_of_ne _ b (by omega)
  have hlow : (m.memory.write a b).read (m.pc.toNat + 1) = m.memory.read (m.pc.toNat + 1) :=
    Memory.read_write_of_ne _ b (by omega)
  simp only [word, setByte, hhigh, hlow]

theorem nextFault_setByte (hpc : a ≠ m.pc.toNat) (hpc' : a ≠ m.pc.toNat + 1) :
    (m.setByte a b).nextFault = m.nextFault := by
  have hhas : (m.setByte a b).hasWord = m.hasWord := rfl
  by_cases hw : m.hasWord = true
  · simp only [nextFault, hhas, word_setByte b hw hpc hpc', faultOf_setByte]
  · rw [nextFault, nextFault, hhas, if_neg hw, if_neg hw]

theorem Executes.setByte {i : Instruction} (hi : m.Executes i) (hpc : a ≠ m.pc.toNat)
    (hpc' : a ≠ m.pc.toNat + 1) : (m.setByte a b).Executes i where
  running := (error_setByte m a b).trans hi.running
  whole := hi.whole
  reads := by
    rw [word_setByte b hi.whole hpc hpc']
    exact hi.reads
  faultless := by
    rw [faultOf_setByte]
    exact hi.faultless

end Outside

/-- **A cycle depends on no memory but its own.**  A byte that is neither one of the two at the
program counter nor one of those at the index that the word there is about can be changed
before the cycle or after it.  This holds of every machine: where the fetch fails, the word
made of the last byte of memory is never done, and a sprite or a transfer that reaches past
the end of memory is taken back. -/
theorem cycle_setByte (m : Machine) (a : Nat) (b : UInt8) (hpc : a ≠ m.pc.toNat)
    (hpc' : a ≠ m.pc.toNat + 1)
    (hwindow : ¬ (m.index.toNat ≤ a ∧
      a < m.index.toNat + Instruction.operandBytesOfWord m.word)) :
    (m.setByte a b).cycle = m.cycle.setByte a b := by
  by_cases hr : m.error = 0
  · rcases executes_or_fault hr with ⟨i, hi⟩ | ⟨hf, heq⟩
    · have hpattern := Instruction.pattern_of_ofWord? hi.reads
      rw [lowBits_word] at hpattern
      rw [Instruction.operandBytesOfWord_of_pattern hpattern] at hwindow
      rw [(hi.setByte b hpc hpc').cycle_eq, hi.cycle_eq,
        perform_setByte b hi.faultless (by omega)]
      rfl
    · have hnext : (m.setByte a b).nextFault = m.nextFault := nextFault_setByte b hpc hpc'
      have hr' : (m.setByte a b).error = 0 := (error_setByte m a b).trans hr
      rw [cycle_of_fault hr' (by rwa [hnext]), hnext, heq]
      rfl
  · have hstopped : m.halted = true := by simpa [halted] using hr
    have hstopped' : (m.setByte a b).halted = true := by simpa [halted] using hr
    rw [cycle_of_halted m hstopped, cycle_of_halted _ hstopped']

/-- A machine that is about to write three registers to memory. -/
def storing : Machine :=
  { fresh .legacy ⟨0, 0⟩ with
    index := 0x300
    memory := (Memory.fresh.write 0x200 0xF2).write 0x201 0x55 }

/-- The byte behind the last register that is written is not among them. -/
theorem cycle_setByte_storing :
    0x303 ≠ storing.pc.toNat ∧ 0x303 ≠ storing.pc.toNat + 1 ∧
      Instruction.operandBytesOfWord storing.word = 3 ∧
      ¬ (storing.index.toNat ≤ 0x303 ∧
        0x303 < storing.index.toNat + Instruction.operandBytesOfWord storing.word) ∧
      (storing.setByte 0x303 7).cycle = storing.cycle.setByte 0x303 7 := by
  have hpc : 0x303 ≠ storing.pc.toNat := by decide
  have hpc' : 0x303 ≠ storing.pc.toNat + 1 := by decide
  have hthree : Instruction.operandBytesOfWord storing.word = 3 := by decide +kernel
  have hwindow : ¬ (storing.index.toNat ≤ 0x303 ∧
      0x303 < storing.index.toNat + Instruction.operandBytesOfWord storing.word) := by
    rw [hthree]
    decide
  exact ⟨hpc, hpc', hthree, hwindow, cycle_setByte storing 0x303 7 hpc hpc' hwindow⟩

end Machine

end ChipEight
