import ChipEight.Proofs.NextAddress
import ChipEight.Proofs.Operations
import ChipEight.Proofs.Subroutines

/-!
# Waiting for a key

A program waits for a key with one instruction (`execute_wait_for_key`) that stays where it is until
a key is held.  The
machine does it again in every cycle, with all that belongs to a cycle, and none of this may be
seen but by the timers: however long the wait, the program wakes up in the state in which it fell
asleep, with the time that went by taken off its timers and the key it asked for.

* `Machine.elapsed` — a number of ticks and nothing else.
* `Machine.Waits` — the machine is about to wait for a key.
* `Machine.Waits.cycle_of_idle`, `Machine.Waits.cycle_of_held` — the two cycles it can do.
* `Machine.Waits.run_of_idle` — the wait, for any number of cycles.
* `Machine.waits_until_held` — the wait and what ends it.
-/

namespace ChipEight

namespace Keypad

/-- The lowest held key is held, and no key below it. -/
theorem lowest?_eq_some_iff (pad : Keypad) (k : Nibble) :
    pad.lowest? = some k ↔ pad.get k = true ∧ ∀ j < k, pad.get j = false := by
  obtain ⟨k, hk⟩ := k
  rw [lowest?, List.find?_eq_some_iff_getElem]
  constructor
  · rintro ⟨hheld, i, hi, hik, hbelow⟩
    obtain rfl : i = k := by simpa [Fin.ext_iff] using hik
    refine ⟨hheld, ?_⟩
    rintro ⟨j, hj⟩ hjk
    simpa using hbelow j hjk
  · rintro ⟨hheld, hbelow⟩
    refine ⟨hheld, k, by simpa using hk, by simp, ?_⟩
    intro j hjk
    simpa using hbelow ⟨j, Nat.lt_trans hjk hk⟩ hjk

end Keypad

namespace Machine

/-! ## Ticks -/

/-- The machine with both timers so many ticks further down. -/
def elapsed (m : Machine) (n : Nat) : Machine :=
  { m with
    delay := UInt8.ofNat (m.delay.toNat - n)
    sound := UInt8.ofNat (m.sound.toNat - n) }

theorem elapsed_zero (m : Machine) : m.elapsed 0 = m := by
  simp [elapsed]

/-- A timer that is some ticks further down is a byte still. -/
theorem toNat_ofNat_sub (b : UInt8) (n : Nat) : (UInt8.ofNat (b.toNat - n)).toNat = b.toNat - n := by
  have hb := b.toNat_lt
  rw [UInt8.toNat_ofNat', Nat.mod_eq_of_lt (by omega)]

theorem elapsed_elapsed (m : Machine) (a b : Nat) : (m.elapsed a).elapsed b = m.elapsed (a + b) := by
  simp only [elapsed, toNat_ofNat_sub, Nat.sub_sub]

theorem tick_eq_elapsed (m : Machine) : m.tick = m.elapsed 1 := by
  have hdown : ∀ b : UInt8, (if b == 0 then 0 else b - 1) = UInt8.ofNat (b.toNat - 1) := by
    intro b
    rw [← UInt8.toNat_inj, toNat_countDown, toNat_ofNat_sub]
  simp only [tick, elapsed, hdown]

/-! ## The two cycles -/

/-- `m.Waits x`: the machine runs, and at its program counter stands the word that waits for a key
and puts it into the register `x`. -/
structure Waits (m : Machine) (x : Nibble) : Prop where
  running : m.error = 0
  fetched : m.Fetches (0xF00A + 256 * x.val)

namespace Waits

variable {m : Machine} {x : Nibble}

theorem executes (h : m.Waits x) : m.Executes (.awaitKey x) where
  running := h.running
  whole := (fetches_iff.1 h.fetched).1
  reads := by
    have hbyte : 0x0A < 256 := by decide
    exact ofWord?_of_fetches h.fetched (Fields.fields_of_byte hbyte (by omega))
  faultless := rfl

/-- **As long as no key is held, a cycle only ticks.** -/
theorem cycle_of_idle (h : m.Waits x) (hidle : ∀ k, m.keypad.get k = false) :
    m.cycle = m.elapsed 1 := by
  rw [h.executes.cycle_eq, tick_eq_elapsed, perform, (lowest?_eq_none_iff m.keypad).2 hidle]

/-- **A cycle that finds keys held takes the lowest**, and the machine goes on. -/
theorem cycle_of_held (h : m.Waits x) {k : Nibble} (hheld : m.keypad.get k = true)
    (hbelow : ∀ j < k, m.keypad.get j = false) :
    m.cycle =
      ({ m.setRegister x (UInt8.ofNat k.val) with pc := m.pc + 2 } : Machine).elapsed 1 := by
  rw [h.executes.cycle_eq, tick_eq_elapsed, perform,
    (m.keypad.lowest?_eq_some_iff k).2 ⟨hheld, hbelow⟩]
  rfl

/-! ## The wait -/

/-- **Waiting takes time and nothing else.** -/
theorem run_of_idle (h : m.Waits x) (hidle : ∀ k, m.keypad.get k = false) (n : Nat) :
    m.run n = m.elapsed n := by
  induction n with
  | zero => rw [elapsed_zero]; rfl
  | succ n ih =>
    -- the word is still there
    have hwaits : (m.elapsed n).Waits x := ⟨h.running, h.fetched⟩
    rw [run_succ, ih, hwaits.cycle_of_idle hidle, elapsed_elapsed]

end Waits

/-- Any set of keys can be selected by their numbers, in any order and more than once each. -/
theorem hold_numbers (m : Machine) (keys : List Nibble) :
    m.hold (.selection (.numbers (keys.map fun k => (k.val : Int)))) =
      .ok { m with keypad := Keypad.ofKeys keys } := by
  have hrange : (keys.map fun k => (k.val : Int)).all (fun k => decide (0 ≤ k ∧ k < 16)) = true := by
    rw [List.all_map, List.all_eq_true]
    intro k _
    have hk := k.isLt
    simp only [Function.comp_apply, decide_eq_true_eq]
    omega
  have hback : (keys.map fun k => (k.val : Int)).map (fun k => Fin.ofNat 16 k.toNat) = keys := by
    rw [List.map_map]
    refine (List.map_congr_left ?_).trans (List.map_id keys)
    intro k _
    simp
  simp only [hold, KeyInput.read, KeySelection.keypad, hrange, if_true, hback, Except.map]

/-- A set of keys that has any has a lowest one. -/
theorem exists_lowest {pad : Keypad} (h : ∃ k, pad.get k = true) :
    ∃ k, pad.get k = true ∧ (∀ j < k, pad.get j = false) ∧ ∀ j, pad.get j = true → k ≤ j := by
  obtain ⟨k, hk⟩ : ∃ k, pad.lowest? = some k := by
    refine Option.ne_none_iff_exists'.1 ?_
    intro hnone
    obtain ⟨k, hk⟩ := h
    rw [(lowest?_eq_none_iff pad).1 hnone k] at hk
    cases hk
  obtain ⟨hheld, hbelow⟩ := (pad.lowest?_eq_some_iff k).1 hk
  refine ⟨k, hheld, hbelow, ?_⟩
  intro j hj
  refine Decidable.byContradiction ?_
  intro hlt
  rw [hbelow j (Fin.not_le.1 hlt)] at hj
  cases hj

/-- **A wait for a key is a pure wait.**  While no key is held, any number of cycles lets the timers
tick and changes nothing else.  Every set of keys can then be selected; whatever the host selects,
only the keys change, and if they are any, the next cycle puts the lowest of them into the register,
goes on with the next instruction, lets the timers tick once and changes nothing else. -/
theorem waits_until_held {m : Machine} {x : Nibble} (h : m.Waits x)
    (hidle : ∀ k, m.keypad.get k = false) (n : Nat) :
    m.run n = m.elapsed n ∧
    (∀ keys : List Nibble, ∃ woken,
      (m.run n).hold (.selection (.numbers (keys.map fun k => (k.val : Int)))) = .ok woken ∧
      ∀ k, woken.keypad.get k = true ↔ k ∈ keys) ∧
    (∀ input woken, (m.run n).hold input = .ok woken →
      woken = { m.elapsed n with keypad := woken.keypad } ∧
      ((∃ k, woken.keypad.get k = true) →
        ∃ k, woken.keypad.get k = true ∧ (∀ j, woken.keypad.get j = true → k ≤ j) ∧
          woken.cycle =
            ({ woken.setRegister x (UInt8.ofNat k.val) with pc := m.pc + 2 } : Machine).elapsed 1 ∧
          woken.cycle.pc.toNat = m.pc.toNat + 2)) := by
  have hrun := h.run_of_idle hidle n
  rw [hrun]
  refine ⟨rfl, ?_, ?_⟩
  · intro keys
    exact ⟨_, hold_numbers _ keys, Keypad.get_ofKeys keys⟩
  · intro input woken hhold
    obtain ⟨pad, rfl⟩ := Session.hold_eq hhold
    refine ⟨rfl, ?_⟩
    intro hany
    obtain ⟨k, hheld, hbelow, hlowest⟩ := exists_lowest hany
    have hwaits : Waits { m.elapsed n with keypad := pad } x := ⟨h.running, h.fetched⟩
    have hcycle := hwaits.cycle_of_held hheld hbelow
    refine ⟨k, hheld, hlowest, hcycle, ?_⟩
    rw [hcycle]
    exact toNat_pc_add h.executes.pc_le (by decide)

/-- A machine that waits for a key while its timers run. -/
def sleeping : Machine :=
  { fresh .legacy ⟨0, 0⟩ with
    delay := 4
    sound := 1
    memory := (Memory.fresh.write 0x200 0xF5).write 0x201 0x0A }

/-- After two cycles two keys are held, the lower of which is the second one that is named. -/
theorem waits_until_held_sleeping :
    sleeping.Waits 5 ∧ (∀ k, sleeping.keypad.get k = false) ∧
      (sleeping.run 2).delay = 2 ∧ (sleeping.run 2).sound = 0 ∧
      ∃ woken, (sleeping.run 2).hold (.selection (.numbers [12, 7])) = .ok woken ∧
        woken.cycle.register 5 = 7 ∧ woken.cycle.pc.toNat = 0x202 ∧ woken.cycle.delay = 1 := by
  have hwaits : sleeping.Waits 5 := ⟨rfl, by decide, by decide +kernel⟩
  have hidle : ∀ k, sleeping.keypad.get k = false := by decide
  obtain ⟨hrun, hselect, hwake⟩ := waits_until_held hwaits hidle 2
  obtain ⟨woken, hhold, hkeys⟩ := hselect [12, 7]
  obtain ⟨hsame, hnext⟩ := hwake _ woken hhold
  obtain ⟨k, hheld, hlowest, hcycle, hpc⟩ := hnext ⟨7, (hkeys 7).2 (by decide)⟩
  obtain rfl : k = 7 := by
    have hle := hlowest 7 ((hkeys 7).2 (by decide))
    rcases List.mem_cons.1 ((hkeys k).1 hheld) with rfl | hlast
    · exact absurd hle (by decide)
    · exact List.mem_singleton.1 hlast
  refine ⟨hwaits, hidle, by rw [hrun]; rfl, by rw [hrun]; rfl, woken, hhold, ?_, hpc, ?_⟩
  · have hset := register_setRegister woken 5 5 (UInt8.ofNat (7 : Nibble).val)
    rw [hcycle]
    exact hset
  · rw [hcycle, hsame]
    rfl

end Machine

end ChipEight
