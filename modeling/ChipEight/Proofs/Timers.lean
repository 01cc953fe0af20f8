import ChipEight.Proofs.NextAddress
import ChipEight.Proofs.Subroutines
import ChipEight.Proofs.WriteSets

/-!
# Timers over runs

Each of the two timers is a byte that counts cycles down and stays at zero (`tick_timers`).  What it
shows after a run is asked here of the whole run, with no look at the cycles between.  Three things
decide it: the last cycle that set the timer, what the register held that it was set from, and how
many cycles there were from that one on.  The cycle that sets a timer ticks as well, so it counts
among them; a cycle that goes wrong does not tick.

* `Machine.Sets` — the next cycle sets a timer.
* `Machine.remaining_cycle_of_sets`, `Machine.remaining_cycle_of_not_sets` — what a cycle leaves on
  a timer that it sets, and on one that it does not.
* `Machine.remaining_run_of_not_sets` — a run without such a cycle counts its cycles down.
* `Machine.remaining_run` — any run counts down from the last cycle that set the timer.
-/

namespace ChipEight

/-- The two timers. -/
inductive Timer
  | delay
  | sound
deriving DecidableEq, Repr

/-- The last byte of the words that set a timer. -/
def Timer.byte : Timer → Nat
  | .delay => 0x15
  | .sound => 0x18

namespace Machine

/-- How many ticks a timer has before it. -/
def remaining (m : Machine) : Timer → Nat
  | .delay => m.delay.toNat
  | .sound => m.sound.toNat

/-- `m.Sets t w`: the next cycle goes well and does the word `w`, which sets the timer `t` from the
register it names. -/
structure Sets (m : Machine) (t : Timer) (w : Nat) : Prop where
  done : m.cycle.error = 0
  fetched : m.Fetches w
  family : w / 4096 = 0xF
  byte : w % 256 = t.byte

variable {m : Machine} {t : Timer}

/-! ## The step -/

/-- **A timer that is set ticks at once.** -/
theorem remaining_cycle_of_sets {w : Nat} (h : m.Sets t w) :
    m.cycle.remaining t = (m.registerX w).toNat - 1 := by
  cases t with
  | delay =>
    have hset := executes_of_pattern (i := .setDelay (Fin.ofNat 16 (w / 256))) h.done h.fetched
      ⟨h.family, rfl, h.byte⟩
    exact hset.delay_cycle
  | sound =>
    have hset := executes_of_pattern (i := .setSound (Fin.ofNat 16 (w / 256))) h.done h.fetched
      ⟨h.family, rfl, h.byte⟩
    exact hset.sound_cycle

/-- **A timer that is not set ticks**, down to zero and no further. -/
theorem remaining_cycle_of_not_sets (hok : m.cycle.error = 0) (h : ∀ w, ¬ m.Sets t w) :
    m.cycle.remaining t = m.remaining t - 1 := by
  obtain ⟨w, hw, hlaw⟩ := writes_cycle hok
  have hother : ¬ (w / 4096 = 0xF ∧ w % 256 = t.byte) := by
    rintro ⟨hf, hb⟩
    exact h w ⟨hok, hw, hf, hb⟩
  cases t with
  | delay => exact hlaw.delay hother
  | sound => exact hlaw.sound hother

/-- A cycle that goes wrong does not tick. -/
theorem remaining_cycle_of_error (h : m.cycle.error ≠ 0) :
    m.cycle.remaining t = m.remaining t := by
  rw [cycle_of_error h]
  cases t <;> rfl

/-- A word that ends in another byte does not set a timer. -/
theorem not_sets_of_word (h : m.word % 256 ≠ t.byte) (w : Nat) : ¬ m.Sets t w := by
  intro hset
  obtain ⟨-, rfl⟩ := fetches_iff.1 hset.fetched
  exact h hset.byte

/-! ## The run -/

/-- **A run that does not set a timer counts its cycles down.** -/
theorem remaining_run_of_not_sets {n : Nat} (hrun : (m.run n).error = 0)
    (h : ∀ k < n, ∀ w, ¬ (m.run k).Sets t w) : (m.run n).remaining t = m.remaining t - n := by
  induction n with
  | zero => rfl
  | succ n ih =>
    have hbefore := ih (error_run_of_le hrun (Nat.le_succ n))
      fun k hk => h k (Nat.lt_succ_of_lt hk)
    rw [run_succ] at hrun ⊢
    rw [remaining_cycle_of_not_sets hrun (h n (Nat.lt_succ_self n)), hbefore]
    omega

/-- From the last cycle that set the timer on, a run counts down from the register. -/
theorem remaining_run_of_sets {n k w : Nat} (hrun : (m.run n).error = 0) (hk : k < n)
    (hset : (m.run k).Sets t w) (hlast : ∀ j, k < j → j < n → ∀ v, ¬ (m.run j).Sets t v) :
    (m.run n).remaining t = ((m.run k).registerX w).toNat - (n - k) := by
  obtain ⟨later, rfl⟩ := Nat.exists_eq_add_of_lt hk
  have hsplit : k + later + 1 = (k + 1) + later := by omega
  have hfirst : (m.run (k + 1)).remaining t = ((m.run k).registerX w).toNat - 1 := by
    rw [run_succ]
    exact remaining_cycle_of_sets hset
  have hrest : ∀ j < later, ∀ v, ¬ ((m.run (k + 1)).run j).Sets t v := by
    intro j hj v
    rw [← run_add]
    exact hlast (k + 1 + j) (by omega) (by omega) v
  rw [hsplit, run_add] at hrun ⊢
  rw [remaining_run_of_not_sets hrun hrest, hfirst]
  omega

/-- After a cycle that goes wrong a timer stays as it is. -/
theorem remaining_run_of_error {n j : Nat} (h : (m.run (n + 1)).error ≠ 0) (hj : n ≤ j) :
    (m.run j).remaining t = (m.run n).remaining t := by
  obtain ⟨later, rfl⟩ := Nat.exists_eq_add_of_le hj
  rw [run_succ] at h
  cases later with
  | zero => rfl
  | succ later =>
    have hhalted : (m.run n).cycle.halted = true := by simpa [halted] using h
    have hstays : m.run (n + (later + 1)) = (m.run n).cycle := by
      rw [Nat.add_comm later 1, ← Nat.add_assoc, run_add, run_succ, run_of_halted _ hhalted]
    rw [hstays, remaining_cycle_of_error h]

/-- **What a timer shows after a run.**  Of a run whose cycles all go well: if none of them sets the
timer, it has counted them down; otherwise it has counted down from what the register held that
the last of them set it from, that cycle among those that are counted (the cycles are numbered from
zero, so number `k` and those after it are `n - k`).  A cycle that goes wrong leaves the timer
alone, and so does every cycle after it. -/
theorem remaining_run (m : Machine) (t : Timer) (n : Nat) :
    ((m.run n).error = 0 →
      ((∀ k < n, ∀ w, ¬ (m.run k).Sets t w) → (m.run n).remaining t = m.remaining t - n) ∧
      (∀ k < n, ∀ w, (m.run k).Sets t w → (∀ j, k < j → j < n → ∀ v, ¬ (m.run j).Sets t v) →
        (m.run n).remaining t = ((m.run k).registerX w).toNat - (n - k))) ∧
    ((m.run (n + 1)).error ≠ 0 → ∀ j, n ≤ j → (m.run j).remaining t = (m.run n).remaining t) := by
  constructor
  · intro hrun
    refine ⟨fun h => remaining_run_of_not_sets hrun h, ?_⟩
    intro k hk w hset hlast
    exact remaining_run_of_sets hrun hk hset hlast
  · intro herr j hj
    exact remaining_run_of_error herr hj

/-- A machine that sets the delay timer from a register in its second cycle, while the sound timer
runs, and finds no instruction in its fifth. -/
def timing : Machine :=
  { fresh .legacy ⟨0, 0⟩ with
    sound := 2
    memory := Memory.fresh.writeAll 0x200 [0x63, 0x05, 0xF3, 0x15, 0x60, 0x00, 0x60, 0x00] }

/-- Three of the five ticks are over when it stops, and no more ever are; the sound timer has not
gone below zero. -/
theorem remaining_run_timing :
    (timing.run 4).error = 0 ∧ (timing.run 1).Sets .delay 0xF315 ∧
      (timing.run 4).remaining .delay = 2 ∧ (timing.run 4).remaining .sound = 0 ∧
      (timing.run 5).error ≠ 0 ∧ (timing.run 100).remaining .delay = 2 := by
  obtain ⟨hrun, hdone, hheld, hstop, hwords⟩ :
      (timing.run 4).error = 0 ∧ (timing.run 1).cycle.error = 0 ∧
        (timing.run 1).registerX 0xF315 = 5 ∧ (timing.run 5).error ≠ 0 ∧
        (timing.run 1).word = 0xF315 ∧ (timing.run 2).word = 0x6000 ∧
        (timing.run 3).word = 0x6000 ∧ (timing.run 0).word = 0x6305 ∧
        (timing.run 1).hasWord = true := by decide +kernel
  obtain ⟨hset, hthird, hfourth, hfirst, hwhole⟩ := hwords
  have hsets : (timing.run 1).Sets .delay 0xF315 :=
    ⟨hdone, fetches_iff.2 ⟨hwhole, hset.symm⟩, by decide, by decide⟩
  have hlast : ∀ j, 1 < j → j < 4 → ∀ v, ¬ (timing.run j).Sets .delay v := by
    intro j hj hlt
    obtain rfl | rfl : j = 2 ∨ j = 3 := by omega
    · exact not_sets_of_word (by rw [hthird]; decide)
    · exact not_sets_of_word (by rw [hfourth]; decide)
  have hsilent : ∀ j < 4, ∀ v, ¬ (timing.run j).Sets .sound v := by
    intro j hj
    obtain rfl | rfl | rfl | rfl : j = 0 ∨ j = 1 ∨ j = 2 ∨ j = 3 := by omega
    · exact not_sets_of_word (by rw [hfirst]; decide)
    · exact not_sets_of_word (by rw [hset]; decide)
    · exact not_sets_of_word (by rw [hthird]; decide)
    · exact not_sets_of_word (by rw [hfourth]; decide)
  obtain ⟨hdelay, hstays⟩ := remaining_run timing .delay 4
  obtain ⟨hsound, -⟩ := remaining_run timing .sound 4
  have htwo : (timing.run 4).remaining .delay = 2 := by
    rw [(hdelay hrun).2 1 (by decide) 0xF315 hsets hlast, hheld]
    rfl
  refine ⟨hrun, hsets, htwo, (hsound hrun).1 hsilent, hstop, ?_⟩
  rw [hstays hstop 100 (by decide), htwo]

end Machine

end ChipEight
