import ChipEight.Machine.Perform

/-!
# Cycles

A cycle fetches the word at the program counter, does it and lets the timers tick.
A cycle that ends with a fault leaves no trace but the error code, so a stopped
machine stays exactly where it stopped: `cycle_of_halted`.
-/

namespace ChipEight.Machine

/-- The state after `fetch`: fetching past the end of memory is a fault. -/
def fetched (m : Machine) : Machine := m.stopIf (!m.hasWord) .outOfBounds

/-- Counts both timers down to zero: `tick_timers`. -/
def tick (m : Machine) : Machine :=
  { m with
    delay := if m.delay == 0 then 0 else m.delay - 1
    sound := if m.sound == 0 then 0 else m.sound - 1 }

/-- One cycle: `step`.  A cycle that ends with a fault is taken back but for the code. -/
def cycle (m : Machine) : Machine :=
  let done := m.fetched.execute m.word
  if done.halted then { m with error := done.error } else done.tick

/-- A number of cycles: the scan of `run_n_cycles`. -/
def run (m : Machine) : Nat → Machine
  | 0 => m
  | n + 1 => m.cycle.run n

/-- What a stopped machine does leaves its code alone: the first fault is the one kept. -/
theorem error_perform (m : Machine) (i : Instruction) (h : m.error ≠ 0) :
    (m.perform i).error = m.error := by
  cases i <;> simp only [perform, draw, next, advance, setRegister, stopIf]
  case alu op x y => unfold putResult setRegister; split <;> rfl
  case awaitKey x => split <;> rfl
  case store x => unfold movedIndex; split <;> simp [h]
  case restore x => unfold movedIndex; split <;> simp [h]
  all_goals simp [h]

theorem error_execute (m : Machine) (word : Int) (h : m.error ≠ 0) :
    (m.execute word).error = m.error := by
  unfold execute
  split
  · exact error_perform m _ h
  · simp [stopIf, h]

theorem cycle_of_halted (m : Machine) (h : m.halted = true) : m.cycle = m := by
  have he : m.error ≠ 0 := by simpa [halted] using h
  have hf : m.fetched = m := by simp [fetched, stopIf, he]
  simp [cycle, hf, error_execute m _ he, halted, he]

theorem run_of_halted (m : Machine) (h : m.halted = true) (n : Nat) : m.run n = m := by
  induction n with
  | zero => rfl
  | succ n ih => rw [run, cycle_of_halted m h, ih]

theorem run_add (m : Machine) (a b : Nat) : m.run (a + b) = (m.run a).run b := by
  induction a generalizing m with
  | zero => simp [run]
  | succ a ih => rw [Nat.add_right_comm, run, ih, run]

end ChipEight.Machine
