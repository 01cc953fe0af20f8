import ChipEight.Proofs.Invariant

/-!
# Calls and returns are brackets

A call that is opened (`execute_call`) and, after any number of cycles, closed again
(`execute_return`) leaves the stack as it was, and the machine goes on behind it.  Nothing is
assumed about what happens in between but that it stays above the call: calls may be nested, code
may jump and write over itself.

The argument is a single invariant.  While the machine is above the call, its stack
extends the one the call left behind (`Stack.Extends`), because closing a call that was
opened later does not reach it.  Coming back down is then a return from exactly that
stack, and popping takes back the push (`Stack.Tidy.pop_push`).

* `Machine.Executes.extends_cycle`, `Machine.extends_run` — the invariant, for one cycle
  and for a run.
* `Machine.Executes.ret_of_depth_lt` — only a return makes the stack less deep.
-/

namespace ChipEight

namespace Machine

/-! ## Runs without a fault -/

theorem run_succ (m : Machine) (n : Nat) : m.run (n + 1) = (m.run n).cycle :=
  run_add m n 1

/-- A run that ends without a fault had none on the way. -/
theorem error_run_of_le {m : Machine} {n k : Nat} (hrun : (m.run k).error = 0) (hn : n ≤ k) :
    (m.run n).error = 0 := by
  obtain ⟨j, rfl⟩ := Nat.exists_eq_add_of_le hn
  rw [run_add] at hrun
  by_cases hr : (m.run n).error = 0
  · exact hr
  · rw [run_of_halted _ (by simpa [halted] using hr)] at hrun
    exact hrun

theorem executes_run {m : Machine} {n k : Nat} (hrun : (m.run k).error = 0) (hn : n < k) :
    ∃ i, (m.run n).Executes i := by
  apply executes_of_error_cycle
  rw [← run_succ]
  exact error_run_of_le hrun hn

/-! ## Above a call -/

namespace Executes

variable {m : Machine} {i : Instruction}

/-- Only a return makes the stack less deep, by one call. -/
theorem ret_of_depth_lt (h : m.Executes i)
    (hd : m.cycle.stack.depth.toNat < m.stack.depth.toNat) :
    i = .ret ∧ m.stack.depth.toNat = m.cycle.stack.depth.toNat + 1 := by
  rw [h.stack_cycle] at hd ⊢
  cases i with
  | ret =>
    have hpos := h.depth_pos
    refine ⟨rfl, ?_⟩
    rw [stackAfter, Stack.depth_pop hpos]
    omega
  | call a =>
    rw [stackAfter, Stack.depth_push h.depth_lt] at hd
    omega
  | _ => exact absurd hd (Nat.lt_irrefl _)

/-- A cycle that stays above a stack leaves that stack alone. -/
theorem extends_cycle {base : Stack} (h : m.Executes i) (hb : m.stack.Extends base)
    (hd : base.depth.toNat ≤ m.cycle.stack.depth.toNat) : m.cycle.stack.Extends base := by
  rw [h.stack_cycle] at hd ⊢
  cases i with
  | ret =>
    have hpos := h.depth_pos
    rw [stackAfter, Stack.depth_pop hpos] at hd
    exact hb.pop (by omega)
  | call a =>
    have hpc := h.pc_le
    exact hb.push h.depth_lt (by omega)
  | _ => exact hb

end Executes

/-- So does a run that stays above it. -/
theorem extends_run {m : Machine} {base : Stack} (hb : m.stack.Extends base) {n : Nat}
    (hrun : (m.run n).error = 0)
    (habove : ∀ j ≤ n, base.depth.toNat ≤ (m.run j).stack.depth.toNat) :
    (m.run n).stack.Extends base := by
  induction n with
  | zero => exact hb
  | succ n ih =>
    obtain ⟨i, hi⟩ := executes_run hrun (Nat.lt_succ_self n)
    have hbefore := ih (error_run_of_le hrun (Nat.le_succ n))
      fun j hj => habove j (Nat.le_succ_of_le hj)
    have hafter := habove (n + 1) (Nat.le_refl _)
    rw [run_succ] at hafter ⊢
    exact hi.extends_cycle hbefore hafter

/-- The call at the program counter is the one that is done. -/
theorem executes_call {m : Machine} {w : Nat} (hw : m.Fetches w) (hf : w / 4096 = 2)
    (h : m.cycle.error = 0) : ∃ a, m.Executes (.call a) :=
  ⟨Fin.ofNat 4096 w, executes_of_pattern h hw ⟨hf, rfl⟩⟩

/-! ## Back at the call -/

/-- The machine after a call that was opened and closed again. -/
theorem Sound.call_closed {m : Machine} (hm : m.Sound) {a : Address}
    (hcall : m.Executes (.call a)) {n : Nat} (hrun : (m.run (n + 2)).error = 0)
    (habove : ∀ j, 1 ≤ j → j ≤ n + 1 → m.stack.depth.toNat < (m.run j).stack.depth.toNat)
    (hback : (m.run (n + 2)).stack.depth.toNat = m.stack.depth.toNat) :
    (m.run (n + 2)).stack = m.stack ∧ (m.run (n + 2)).pc = m.pc + 2 := by
  have hpc := hcall.pc_le
  have hroom := hcall.depth_lt
  have hopen : (m.run 1).stack = m.stack.push m.pc := hcall.stack_cycle
  have hdepth := Stack.depth_push hroom m.pc
  have hbase : (m.run (n + 1)).stack.Extends (m.stack.push m.pc) := by
    rw [Nat.add_comm, run_add]
    refine extends_run (hopen ▸ Stack.Extends.refl _) ?_ fun j hj => ?_
    · rw [← run_add]
      exact error_run_of_le hrun (by omega)
    · have hj' := habove (1 + j) (by omega) (by omega)
      rw [run_add] at hj'
      omega
  obtain ⟨i, hi⟩ := executes_run hrun (Nat.lt_succ_self (n + 1))
  rw [run_succ] at hback ⊢
  have hlast := habove (n + 1) (by omega) (Nat.le_refl _)
  -- the last cycle comes down, so it returns, and from the stack the call left behind
  obtain ⟨rfl, hone⟩ := hi.ret_of_depth_lt (by omega)
  have hsame : (m.run (n + 1)).stack = m.stack.push m.pc :=
    hbase.eq_of_depth (hm.run _).stack (hm.stack.push hroom hpc) (by omega)
  have hpop : (m.run (n + 1)).stack.pop = (m.stack, m.pc) := by
    rw [hsame]
    exact hm.stack.pop_push hroom (by omega)
  constructor
  · rw [hi.stack_cycle, stackAfter, hpop]
  · rw [hi.pc_cycle, pcAfter, hpop]

end Machine

namespace Session

/-- **A call comes back to where it was made, with the stack as it was.**  The machine is
about to do a call; for `k` cycles there is no fault, the stack is deeper than before the
call after each of them but the last, and after the last it is as deep as before.  Then
the machine goes on behind the call, and not only the depth but every slot of the stack is
what it was.  That the machine is running and has room for the call is no assumption: a
stopped machine and a full stack are faults. -/
theorem call_comes_back {s : Session} (hs : s.Reachable) {w : Nat} (hw : s.machine.Fetches w)
    (hf : w / 4096 = 2) {k : Nat} (hk : 2 ≤ k) (hrun : (s.machine.run k).error = 0)
    (habove : ∀ j < k, 1 ≤ j →
      s.machine.stack.depth.toNat < (s.machine.run j).stack.depth.toNat)
    (hback : (s.machine.run k).stack.depth.toNat = s.machine.stack.depth.toNat) :
    (s.machine.run k).pc.toNat = s.machine.pc.toNat + 2 ∧
      (s.machine.run k).stack = s.machine.stack := by
  obtain ⟨n, rfl⟩ := Nat.exists_eq_add_of_le' hk
  obtain ⟨a, ha⟩ := Machine.executes_call hw hf (Machine.error_run_of_le hrun (by omega : 1 ≤ _))
  obtain ⟨hstack, hpc⟩ := hs.sound.call_closed ha hrun
    (fun j hj hle => habove j (by omega) hj) hback
  refine ⟨?_, hstack⟩
  rw [hpc]
  exact Machine.toNat_pc_add ha.pc_le (by decide)

/-- A session with a program that calls a subroutine that calls another one. -/
def nested : Session :=
  (fresh ⟨0, 0⟩ .legacy false).performAll
    [.load (.bytes [0x22, 0x04, 0x00, 0x00, 0x22, 0x08, 0x00, 0xEE, 0x00, 0xEE])]

theorem call_comes_back_nested :
    nested.Reachable ∧ nested.machine.Fetches 0x2204 ∧ (nested.machine.run 4).error = 0 ∧
      (nested.machine.run 2).stack.depth = 2 ∧ (nested.machine.run 4).pc.toNat = 0x202 ∧
      (nested.machine.run 4).stack = Stack.empty := by
  have hr : nested.Reachable := (Reachable.fresh ⟨0, 0⟩ .legacy false).performAll _
  have hw : nested.machine.Fetches 0x2204 := ⟨by decide +kernel, by decide +kernel⟩
  have hstart : nested.machine.pc = 0x200 ∧ nested.machine.stack = Stack.empty := by
    decide +kernel
  obtain ⟨habove, hrun, hback, htwo⟩ :
      (∀ j < 4, 1 ≤ j → Stack.empty.depth.toNat < (nested.machine.run j).stack.depth.toNat) ∧
      (nested.machine.run 4).error = 0 ∧
      (nested.machine.run 4).stack.depth.toNat = Stack.empty.depth.toNat ∧
      (nested.machine.run 2).stack.depth = 2 := by
    decide +kernel
  rw [← hstart.2] at habove hback
  obtain ⟨hpc, hstack⟩ := call_comes_back hr hw (by decide) (by decide) hrun habove hback
  refine ⟨hr, hw, hrun, htwo, ?_, hstack.trans hstart.2⟩
  rw [hpc, hstart.1]
  rfl

end Session

end ChipEight
