import Mathlib.Logic.Function.Iterate
import ChipEight.Proofs.NextAddress
import ChipEight.Proofs.Subroutines
import ChipEight.Proofs.WriteSets

/-!
# The random stream of a run

One instruction (`execute_random`) takes a byte from the random stream, and nothing else has a hand
in it.  A cycle
that takes a byte moves the key on by one, whatever the mask leaves of the byte; every other cycle
leaves the key alone, one that goes wrong included.  So the key after a run says how many bytes were
taken and nothing more, and what a program gets from the stream depends on no other part of it.

* `Machine.TakesByte` — a cycle takes a byte, and what it leaves of it.
* `Machine.takers` — the cycles of a run that take one, and `Machine.taken` — what they take.
* `Machine.key_cycle_eq`, `Machine.takesByte_of_takes` — what a cycle does to the key, and what it
  takes.
* `Machine.key_run`, `Machine.length_takers_of_getElem?` — how far the key is after a run, and how
  many bytes were taken before a given one.
* `Machine.stream_of_run` — the bytes that are taken are those of the stream, in their order.
-/

namespace ChipEight.Machine

open Instruction

/-! ## The cycles that take a byte -/

/-- `m.TakesByte w b`: the next cycle goes well and does the word `w`, which leaves of the byte `b`
what its mask lets through, in the register it names. -/
structure TakesByte (m : Machine) (w : Nat) (b : UInt8) : Prop where
  done : m.cycle.error = 0
  fetched : m.Fetches w
  family : w / 4096 = 0xC
  stored : m.cycle.registerX w = b &&& UInt8.ofNat (w % 256)

/-- Whether the next cycle goes well and its word takes a random byte. -/
def takes (m : Machine) : Bool := m.cycle.error == 0 && m.word / 4096 == 0xC

/-- The numbers of those of the first cycles that take a random byte, in order. -/
def takers (m : Machine) (n : Nat) : List Nat :=
  (List.range n).filter fun k => (m.run k).takes

/-- The bytes they take from the stream, in order. -/
def taken (m : Machine) (n : Nat) : List UInt8 :=
  (m.takers n).map fun k => (m.run k).key.byte

variable {m : Machine}

theorem takes_iff : m.takes = true ↔ m.cycle.error = 0 ∧ m.word / 4096 = 0xC := by
  simp [takes]

/-- A cycle that takes a byte is one of those that are counted. -/
theorem TakesByte.takes {w : Nat} {b : UInt8} (h : m.TakesByte w b) : m.takes = true := by
  obtain ⟨-, rfl⟩ := fetches_iff.1 h.fetched
  exact takes_iff.2 ⟨h.done, h.family⟩

/-! ## The step -/

/-- **The key moves on exactly if a byte is taken.** -/
theorem key_cycle_eq (m : Machine) : m.cycle.key = if m.takes then m.key.next else m.key := by
  by_cases hok : m.cycle.error = 0
  · obtain ⟨i, hi⟩ := executes_of_error_cycle hok
    obtain ⟨hw, hpattern⟩ := hi.fetches
    by_cases hf : m.word / 4096 = 0xC
    · have hrandom := executes_of_pattern
        (i := .random (Fin.ofNat 16 (m.word / 256)) (UInt8.ofNat m.word)) hok hw
        ⟨hf, rfl, UInt8.toNat_ofNat'.symm⟩
      rw [if_pos (takes_iff.2 ⟨hok, hf⟩), hrandom.key_cycle, keyAfter]
    · have hnot : ¬ m.takes = true := fun ht => hf (takes_iff.1 ht).2
      rw [if_neg hnot, hi.key_cycle, keyAfter_of_pattern hpattern hf]
  · -- a cycle that goes wrong takes no byte, and leaves the key as it was
    have hnot : ¬ m.takes = true := fun ht => hok (takes_iff.1 ht).1
    rw [if_neg hnot, cycle_of_error hok]

/-- The byte that is taken is the one the key yields. -/
theorem takesByte_of_takes (h : m.takes = true) : m.TakesByte m.word m.key.byte := by
  obtain ⟨hok, hf⟩ := takes_iff.1 h
  obtain ⟨i, hi⟩ := executes_of_error_cycle hok
  obtain ⟨hw, -⟩ := hi.fetches
  refine ⟨hok, hw, hf, ?_⟩
  have hrandom := executes_of_pattern
    (i := .random (Fin.ofNat 16 (m.word / 256)) (UInt8.ofNat (m.word % 256))) hok hw
    ⟨hf, rfl, by simp⟩
  rw [registerX, register, hrandom.registers_cycle]
  have hset := register_setRegister m (Fin.ofNat 16 (m.word / 256)) (Fin.ofNat 16 (m.word / 256))
    (m.key.byte &&& UInt8.ofNat (m.word % 256))
  rwa [if_pos rfl] at hset

/-! ## The run -/

theorem takers_succ (m : Machine) (n : Nat) :
    m.takers (n + 1) = m.takers n ++ if (m.run n).takes then [n] else [] := by
  rw [takers, takers, List.range_succ, List.filter_append]
  by_cases h : (m.run n).takes = true <;> simp [h]

/-- **The key after a run says how many bytes were taken**, and nothing more. -/
theorem key_run (m : Machine) (n : Nat) :
    (m.run n).key = Random.Key.next^[(m.takers n).length] m.key := by
  induction n with
  | zero => rfl
  | succ n ih =>
    rw [run_succ, key_cycle_eq, takers_succ]
    by_cases h : (m.run n).takes = true
    · simp only [h, if_true, List.length_append, List.length_singleton,
        Function.iterate_succ_apply', ih]
    · simp only [h, if_false, List.append_nil, ih, Bool.false_eq_true]

/-- Before the cycle that takes a byte as number `j`, counted from zero, there were `j` that took
one. -/
theorem length_takers_of_getElem? {n j k : Nat} (h : (m.takers n)[j]? = some k) :
    (m.takers k).length = j ∧ (m.run k).takes = true := by
  induction n with
  | zero => simp [takers] at h
  | succ n ih =>
    rw [takers_succ] at h
    by_cases hj : j < (m.takers n).length
    · rw [List.getElem?_append_left hj] at h
      exact ih h
    · have hle : (m.takers n).length ≤ j := Nat.le_of_not_lt hj
      rw [List.getElem?_append_right hle] at h
      by_cases ht : (m.run n).takes = true
      · simp only [ht, if_true, List.getElem?_singleton] at h
        split at h
        · cases h
          exact ⟨by omega, ht⟩
        · cases h
      · simp [ht] at h

/-- The bytes that are taken are the first ones of the stream. -/
theorem taken_eq_map (m : Machine) (n : Nat) :
    m.taken n =
      (List.range (m.takers n).length).map fun j => (Random.Key.next^[j] m.key).byte := by
  apply List.ext_getElem?
  intro j
  rw [taken, List.getElem?_map, List.getElem?_map]
  cases hk : (m.takers n)[j]? with
  | none =>
    rw [List.getElem?_eq_none_iff] at hk
    rw [List.getElem?_eq_none (by rw [List.length_range]; exact hk), Option.map_none,
      Option.map_none]
  | some k =>
    obtain ⟨hlt, -⟩ := List.getElem?_eq_some_iff.1 hk
    obtain ⟨hbefore, -⟩ := length_takers_of_getElem? hk
    rw [List.getElem?_range hlt, Option.map_some, Option.map_some, key_run, hbefore]

/-- **What a run gets from the random stream.**  The key after so many cycles is the one of the
start, moved on once for every cycle that took a byte.  Number `j` of these cycles, counted from
zero, takes the byte of the key moved on `j` times, and leaves in its register what its mask lets
through; every cycle that takes a byte is one of them.  So two runs that start with one key, of
whatever programs, in whatever dialect and with whatever keys held, take the same bytes in the
same order, as long as both go on to take any. -/
theorem stream_of_run (m : Machine) (n : Nat) :
    (m.run n).key = Random.Key.next^[(m.takers n).length] m.key ∧
    (∀ j k, (m.takers n)[j]? = some k →
      (m.taken n)[j]? = some (Random.Key.next^[j] m.key).byte ∧
      ∃ w, (m.run k).TakesByte w (Random.Key.next^[j] m.key).byte) ∧
    (∀ k < n, ∀ w b, (m.run k).TakesByte w b → k ∈ m.takers n) ∧
    (∀ (m' : Machine) (n' : Nat), m'.key = m.key →
      (m.takers n).length ≤ (m'.takers n').length → m.taken n <+: m'.taken n') := by
  refine ⟨key_run m n, ?_, ?_, ?_⟩
  · intro j k hk
    obtain ⟨hbefore, htakes⟩ := length_takers_of_getElem? hk
    have hkey : (m.run k).key = Random.Key.next^[j] m.key := by
      rw [key_run, hbefore]
    refine ⟨?_, (m.run k).word, ?_⟩
    · rw [taken, List.getElem?_map, hk, ← hkey]
      rfl
    · rw [← hkey]
      exact takesByte_of_takes htakes
  · intro k hk w b h
    rw [takers, List.mem_filter, List.mem_range]
    exact ⟨hk, h.takes⟩
  · intro m' n' hkey hle
    obtain ⟨more, hmore⟩ := Nat.exists_eq_add_of_le hle
    rw [taken_eq_map, taken_eq_map, hkey, hmore, List.range_add, List.map_append]
    exact List.prefix_append _ _

end ChipEight.Machine
