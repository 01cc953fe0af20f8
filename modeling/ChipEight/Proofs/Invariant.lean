import ChipEight.Proofs.FaultCauses
import ChipEight.Proofs.Hosting

/-!
# The invariant of every machine a host can arrive at

The stack, the program counter and the error byte hold each other in bounds.  A return
address is small because a call is only done where a whole word stands (`fetch`), and the program
counter is small because return addresses are; an instruction that does not continue in
order goes to an address of twelve bits plus at most a byte.

* `Machine.Sound` — the invariant.
* `Machine.Sound.cycle` — one cycle keeps it, with a fault or without, and
  `Machine.Sound.run` — so does every run.
* `Session.Reachable.sound` — it holds whatever a host does, in any order.
-/

namespace ChipEight

namespace Machine

/-- What holds of the machine at all times. -/
structure Sound (m : Machine) : Prop where
  stack : m.stack.Tidy
  pc_le : m.pc.toNat ≤ 0x10FE
  error_code : ∃ code : FaultCode, m.error = code.number
  overflow : m.error = FaultCode.stackOverflow.number → m.stack.depth.toNat = 16
  underflow : m.error = FaultCode.stackUnderflow.number → m.stack.depth.toNat = 0

/-- The invariant looks at the stack, the program counter and the error byte only. -/
theorem Sound.congr {m m' : Machine} (h : m.Sound) (hs : m'.stack = m.stack) (hp : m'.pc = m.pc)
    (he : m'.error = m.error) : m'.Sound where
  stack := hs ▸ h.stack
  pc_le := hp ▸ h.pc_le
  error_code := he ▸ h.error_code
  overflow hc := hs ▸ h.overflow (he ▸ hc)
  underflow hc := hs ▸ h.underflow (he ▸ hc)

theorem sound_of_running {m : Machine} (hs : m.stack.Tidy) (hp : m.pc.toNat ≤ 0x10FE)
    (he : m.error = 0) : m.Sound where
  stack := hs
  pc_le := hp
  error_code := ⟨.clear, he⟩
  overflow hc := absurd (he ▸ hc) (by decide)
  underflow hc := absurd (he ▸ hc) (by decide)

theorem sound_fresh (mode : Mode) (key : Random.Key) : (fresh mode key).Sound :=
  sound_of_running Stack.tidy_empty
    (show (UInt16.ofNat Layout.programStart).toNat ≤ 0x10FE by decide) rfl

/-! ## The stack after an instruction -/

theorem Executes.depth_pos {m : Machine} (h : m.Executes .ret) : 0 < m.stack.depth.toNat := by
  have he : m.stack.isEmpty = false := FaultCode.eq_false_of_ite (by decide) h.faultless
  rw [← Bool.not_eq_true, Stack.isEmpty_iff] at he
  omega

theorem Executes.depth_lt {m : Machine} {a : Address} (h : m.Executes (.call a)) :
    m.stack.depth.toNat < 16 := by
  have he : m.stack.isFull = false := FaultCode.eq_false_of_ite (by decide) h.faultless
  rw [← Bool.not_eq_true, Stack.isFull_iff] at he
  omega

theorem tidy_stackAfter {m : Machine} {i : Instruction} (hs : m.stack.Tidy) (h : m.Executes i) :
    (m.stackAfter i).Tidy := by
  cases i with
  | ret => exact hs.pop h.depth_pos
  | call a => exact hs.push h.depth_lt h.pc_le
  | _ => exact hs

/-! ## The program counter after an instruction -/

/-- Where an instruction goes on, with nothing wrapped around. -/
def destination (m : Machine) : Instruction → Nat
  | .ret => m.stack.pop.2.toNat + 2
  | .jump a => a.val
  | .call a => a.val
  | .skipIf t => if m.holds t then m.pc.toNat + 4 else m.pc.toNat + 2
  | .jumpOffset a => a.val + (m.register (offsetRegister m.mode a)).toNat
  | .awaitKey _ => if m.keypad.lowest?.isSome then m.pc.toNat + 2 else m.pc.toNat
  | _ => m.pc.toNat + 2

theorem destination_le {m : Machine} {i : Instruction} (hs : m.stack.Tidy) (h : m.Executes i) :
    m.destination i ≤ 0x10FE := by
  have hpc := h.pc_le
  cases i with
  | ret =>
    have hback := hs.snd_pop_le h.depth_pos
    simp only [destination]
    omega
  | jump a | call a =>
    have ha := a.isLt
    simp only [destination]
    omega
  | skipIf t | awaitKey x =>
    simp only [destination]
    split <;> omega
  | jumpOffset a =>
    have ha := a.isLt
    have hb := (m.register (offsetRegister m.mode a)).toNat_lt
    simp only [destination]
    omega
  | _ =>
    simp only [destination]
    omega

/-- A small step of the program counter does not wrap around. -/
theorem toNat_pc_add {a b : UInt16} (ha : a.toNat ≤ 0xFFE) (hb : b.toNat ≤ 4) :
    (a + b).toNat = a.toNat + b.toNat := by
  rw [UInt16.toNat_add]
  omega

theorem toNat_ofAddress (a : Address) : (UInt16.ofNat a.val).toNat = a.val := by
  have ha := a.isLt
  rw [UInt16.toNat_ofNat']
  omega

/-- The sixteen bits of the program counter are enough wherever no address was stored. -/
theorem toNat_pcAfter_of_ne_ret {m : Machine} {i : Instruction} (h : m.Executes i)
    (hi : i ≠ .ret) : (m.pcAfter i).toNat = m.destination i := by
  have hpc := h.pc_le
  have hnext : (m.pc + 2).toNat = m.pc.toNat + 2 := toNat_pc_add hpc (by decide)
  cases i with
  | ret => exact absurd rfl hi
  | jump a | call a => exact toNat_ofAddress a
  | skipIf t =>
    simp only [pcAfter, destination]
    split
    · exact toNat_pc_add hpc (by decide)
    · exact hnext
  | jumpOffset a =>
    have ha := a.isLt
    have hb := (m.register (offsetRegister m.mode a)).toNat_lt
    simp only [pcAfter, destination, UInt16.toNat_add, toNat_ofAddress, UInt8.toNat_toUInt16]
    omega
  | awaitKey x =>
    simp only [pcAfter, destination]
    split
    · exact hnext
    · rfl
  | _ => exact hnext

/-- They are enough for every instruction if the stored addresses are small. -/
theorem toNat_pcAfter {m : Machine} {i : Instruction} (hs : m.stack.Tidy) (h : m.Executes i) :
    (m.pcAfter i).toNat = m.destination i := by
  by_cases hi : i = .ret
  · subst hi
    exact toNat_pc_add (hs.snd_pop_le h.depth_pos) (by decide)
  · exact toNat_pcAfter_of_ne_ret h hi

/-! ## Cycles and runs -/

theorem Sound.cycle {m : Machine} (hm : m.Sound) : m.cycle.Sound := by
  by_cases hr : m.error = 0
  · rcases executes_or_fault hr with ⟨i, hi⟩ | ⟨hf, heq⟩
    · refine sound_of_running ?_ ?_ hi.error_cycle
      · rw [hi.stack_cycle]
        exact tidy_stackAfter hm.stack hi
      · rw [hi.pc_cycle, toNat_pcAfter hm.stack hi]
        exact destination_le hm.stack hi
    · -- a fault changes the error byte only, and its cause says how deep the stack is
      have hcause := faults_nextFault hm.stack.depth_le hf
      rw [heq]
      refine ⟨hm.stack, hm.pc_le, ⟨_, rfl⟩, fun hc => ?_, fun hc => ?_⟩
      · rw [FaultCode.number_inj.1 hc] at hcause
        cases hcause with
        | overflow _ _ hd => exact hd
      · rw [FaultCode.number_inj.1 hc] at hcause
        cases hcause with
        | underflow _ _ _ hd => exact hd
  · rw [cycle_of_halted m (by simpa [halted] using hr)]
    exact hm

theorem Sound.run {m : Machine} (hm : m.Sound) (n : Nat) : (m.run n).Sound := by
  induction n generalizing m with
  | zero => exact hm
  | succ n ih => exact ih hm.cycle

/-- The host of a sound machine is told of a fault or of nothing. -/
theorem Sound.halt?_eq {m : Machine} (hm : m.Sound) {h : Halt} (hh : m.halt? = some h) :
    ∃ r, h = .fault r ∧ m.error = r.code.number ∧ r.code ≠ .clear := by
  obtain ⟨code, hcode⟩ := hm.error_code
  unfold halt? at hh
  rw [hcode, FaultCode.ofNumber?_number] at hh
  cases code with
  | clear => cases hh
  | _ =>
    cases hh
    exact ⟨_, rfl, hcode, by simp⟩

end Machine

namespace Session

open Machine

theorem sound_handling {s : Session} {m : Machine} (hs : s.machine.Sound) (h : Handling s m) :
    m.Sound := by
  cases h with
  | cycles n => exact hs.run n
  | restart =>
    unfold start
    split
    · exact sound_fresh _ _
    · exact (sound_fresh s.mode s.seed).congr rfl rfl rfl
  | image image => exact hs.congr rfl rfl rfl
  | keys pad => exact hs.congr rfl rfl rfl
  | look => exact hs.congr rfl rfl rfl

theorem Reachable.sound {s : Session} (h : s.Reachable) : s.machine.Sound := by
  induction h with
  | fresh seed mode traced => exact sound_fresh mode seed
  | perform _ c ih => exact sound_handling ih (handling_operate _ (.command c))
  | runFor _ cycles showBar ih =>
    exact sound_handling ih (handling_operate _ (.cycles cycles showBar))

/-- **The bounds of every machine a host can arrive at**, in numbers.  The stack has at most
sixteen calls, its free slots are clear and the others hold addresses a call can come from;
the program counter is less than 256 bytes past the end of memory; the error byte is a code,
and the codes of the stack are there only if the stack is full or empty.  So nothing was
ever lost in the twelve bits of a slot or the sixteen bits of the program counter, and all
that a host is ever told is one of the four faults. -/
theorem reachable_bounds {s : Session} (hs : s.Reachable) :
    s.machine.stack.depth.toNat ≤ 16 ∧
    (∀ i, (h : i < 16) → s.machine.stack.depth.toNat ≤ i → s.machine.stack.slots[i] = 0) ∧
    (∀ i, (h : i < 16) → i < s.machine.stack.depth.toNat →
      s.machine.stack.slots[i].toNat ≤ 0xFFE) ∧
    (∀ a, s.machine.Executes (.call a) → s.machine.pc &&& 0xFFF = s.machine.pc) ∧
    s.machine.pc.toNat ≤ 0x10FE ∧
    (∀ i, s.machine.Executes i → s.machine.cycle.pc.toNat = s.machine.destination i) ∧
    (∃ code : FaultCode, s.machine.error = code.number) ∧
    (s.machine.error = FaultCode.stackOverflow.number → s.machine.stack.depth.toNat = 16) ∧
    (s.machine.error = FaultCode.stackUnderflow.number → s.machine.stack.depth.toNat = 0) ∧
    (∀ h, s.machine.halt? = some h → ∃ r, h = .fault r ∧
      r.code ∈ [.outOfBounds, .unknownOpcode, .stackOverflow, .stackUnderflow]) := by
  have hm := hs.sound
  refine ⟨hm.stack.depth_le, hm.stack.clear_above, hm.stack.address_below, fun a ha => ?_,
    hm.pc_le, fun i hi => ?_, hm.error_code, hm.overflow, hm.underflow, fun h hh => ?_⟩
  · have hpc := ha.pc_le
    exact Stack.and_addressMask (by omega)
  · rw [hi.pc_cycle]
    exact toNat_pcAfter hm.stack hi
  · obtain ⟨r, rfl, -, hr⟩ := hm.halt?_eq hh
    refine ⟨r, rfl, ?_⟩
    cases hc : r.code with
    | clear => exact absurd hc hr
    | _ => simp

/-- A session that is opened with a return and nothing to return to, and does it. -/
def returning : Session :=
  (fresh ⟨0, 7⟩ .modern true).performAll [.load (.bytes [0x00, 0xEE]), .step, .acknowledge]

theorem reachable_bounds_returning :
    returning.Reachable ∧ returning.machine.error = FaultCode.stackUnderflow.number ∧
      returning.machine.stack.depth.toNat = 0 := by
  have hr : returning.Reachable := (Reachable.fresh ⟨0, 7⟩ .modern true).performAll _
  have herr : returning.machine.error = FaultCode.stackUnderflow.number := by decide +kernel
  obtain ⟨-, -, -, -, -, -, -, -, hempty, -⟩ := reachable_bounds hr
  exact ⟨hr, herr, hempty herr⟩

end Session

end ChipEight
