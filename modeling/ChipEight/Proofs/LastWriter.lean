import ChipEight.Proofs.NextAddress
import ChipEight.Proofs.Subroutines

/-!
# Who wrote a byte last

Two instructions write to memory: one the decimal digits of a register (`execute_bcd_conversion`),
the other the registers themselves (`execute_store_registers`).  Nothing else does, a cycle that
goes wrong least of all, so a byte of memory is at any time what the last of these instructions put
there whose window it was in, whatever the program did to its own words in between.

* `DecimalNotation` — what the digits of a byte are, with no word about how they are found.
* `Machine.Stores` — the next cycle writes to an address, and `Machine.Puts` — what it puts
  there, which is one byte (`Machine.Stores.puts_unique`).
* `Machine.memory_cycle_of_stores`, `Machine.memory_cycle_of_not_stores` — a cycle changes the
  bytes in its window and no others.
* `Machine.memory_run_lastWriter` — after a run of any length the last writer has the last word.
-/

namespace ChipEight

/-! ## Digits -/

/-- `DecimalNotation b ds`: the byte `b` is written with the three decimal digits `ds`. -/
def DecimalNotation (b : UInt8) (ds : List UInt8) : Prop :=
  ∃ d₀ d₁ d₂ : UInt8, ds = [d₀, d₁, d₂] ∧
    d₀.toNat ≤ 9 ∧ d₁.toNat ≤ 9 ∧ d₂.toNat ≤ 9 ∧
    100 * d₀.toNat + 10 * d₁.toNat + d₂.toNat = b.toNat

theorem decimalNotation_decimalDigits (b : UInt8) :
    DecimalNotation b (Machine.decimalDigits b) := by
  have hb := b.toNat_lt
  have h₀ : (b / 100).toNat = b.toNat / 100 := by simp
  have h₁ : (b / 10 % 10).toNat = b.toNat / 10 % 10 := by simp
  have h₂ : (b % 10).toNat = b.toNat % 10 := by simp
  refine ⟨b / 100, b / 10 % 10, b % 10, rfl, ?_, ?_, ?_, ?_⟩
  all_goals omega

/-- A byte has only one decimal notation. -/
theorem DecimalNotation.unique {b : UInt8} {ds es : List UInt8} (hd : DecimalNotation b ds)
    (he : DecimalNotation b es) : ds = es := by
  obtain ⟨d₀, d₁, d₂, rfl, hd₀, hd₁, hd₂, hd⟩ := hd
  obtain ⟨e₀, e₁, e₂, rfl, he₀, he₁, he₂, he⟩ := he
  have h₀ : d₀ = e₀ := UInt8.toNat_inj.1 (by omega)
  have h₁ : d₁ = e₁ := UInt8.toNat_inj.1 (by omega)
  have h₂ : d₂ = e₂ := UInt8.toNat_inj.1 (by omega)
  rw [h₀, h₁, h₂]

namespace Memory

theorem getElem_writeAll_of_outside (m : Memory) {a c : Nat} {bytes : List UInt8}
    (ha : a < 4096) (h : a < c ∨ c + bytes.length ≤ a) : (m.writeAll c bytes)[a] = m[a] := by
  rw [getElem_writeAll]
  split
  · rw [List.getD_eq_getElem?_getD, List.getElem?_eq_none (by omega)]
    rfl
  · rfl

theorem getElem_writeAll_of_inside (m : Memory) {a c : Nat} (bytes : List UInt8)
    (ha : a < 4096) (hfrom : c ≤ a) (hto : a < c + bytes.length) :
    bytes[a - c]? = some (m.writeAll c bytes)[a] := by
  have hlt : a - c < bytes.length := by omega
  rw [getElem_writeAll, if_pos hfrom, List.getD_eq_getElem?_getD,
    List.getElem?_eq_getElem hlt]
  rfl

end Memory

namespace Machine

open Instruction

/-! ## Writers -/

/-- `m.Stores w a`: the next cycle does the word `w`, nothing goes wrong, and the address `a`
is in the window the word writes to. -/
structure Stores (m : Machine) (w a : Nat) : Prop where
  done : m.cycle.error = 0
  fetched : m.Fetches w
  family : w / 4096 = 0xF
  start_le : m.index.toNat ≤ a
  /-- Three digits, or the registers up to the one the word names. -/
  le_end : (w % 256 = 0x33 ∧ a ≤ m.index.toNat + 2) ∨
    (w % 256 = 0x55 ∧ a ≤ m.index.toNat + w / 256 % 16)

/-- `m.Puts w a b`: the word `w` is to put the byte `b` at the address `a`: a digit of its
register, or the register that stands as far from the first one as the address is from the
start of the window. -/
structure Puts (m : Machine) (w a : Nat) (b : UInt8) : Prop where
  digit : w % 256 = 0x33 →
    ∃ ds, DecimalNotation (m.registerX w) ds ∧ ds[a - m.index.toNat]? = some b
  register : w % 256 = 0x55 → m.registers[a - m.index.toNat]? = some b

/-- There is only one byte that a word can put at an address in its window. -/
theorem Stores.puts_unique {m : Machine} {w a : Nat} {b c : UInt8} (h : m.Stores w a)
    (hb : m.Puts w a b) (hc : m.Puts w a c) : b = c := by
  apply Option.some.inj
  rcases h.le_end with ⟨hw, -⟩ | ⟨hw, -⟩
  · obtain ⟨ds, hds, hdigit⟩ := hb.digit hw
    obtain ⟨es, hes, hdigit'⟩ := hc.digit hw
    obtain rfl := hds.unique hes
    rw [← hdigit, hdigit']
  · rw [← hb.register hw, hc.register hw]

/-! ## The step -/

theorem length_decimalDigits (b : UInt8) : (decimalDigits b).length = 3 := rfl

theorem length_stored (m : Machine) (x : Nibble) :
    (m.registers.toList.take (x.val + 1)).length = x.val + 1 := by
  have hx := x.isLt
  simp only [List.length_take, Vector.length_toList]
  omega

/-- An instruction that is done writes inside its window only. -/
theorem memoryAfter_of_not_stores {m : Machine} {i : Instruction} {w a : Nat} (ha : a < 4096)
    (hok : m.cycle.error = 0) (hw : m.Fetches w) (hi : i.Pattern w) (h : ¬ m.Stores w a) :
    (m.memoryAfter i)[a] = m.memory[a] := by
  cases i with
  | decimal x =>
    obtain ⟨hf, -, hb⟩ := hi
    refine m.memory.getElem_writeAll_of_outside ha ?_
    apply Decidable.byContradiction
    intro hin
    rw [length_decimalDigits] at hin
    exact h ⟨hok, hw, hf, by omega, Or.inl ⟨hb, by omega⟩⟩
  | store x =>
    obtain ⟨hf, hx, hb⟩ := hi
    refine m.memory.getElem_writeAll_of_outside ha ?_
    apply Decidable.byContradiction
    intro hin
    rw [length_stored] at hin
    exact h ⟨hok, hw, hf, by omega, Or.inr ⟨hb, by omega⟩⟩
  | _ => rfl

/-- **A cycle leaves alone what is outside its window.**  One that goes wrong leaves everything
alone. -/
theorem memory_cycle_of_not_stores {m : Machine} {a : Nat} (ha : a < 4096)
    (h : ∀ w, ¬ m.Stores w a) : m.cycle.memory[a] = m.memory[a] := by
  by_cases hok : m.cycle.error = 0
  · obtain ⟨i, hi⟩ := executes_of_error_cycle hok
    obtain ⟨hw, hpattern⟩ := hi.fetches
    have hkept := memoryAfter_of_not_stores ha hok hw hpattern (h _)
    simp only [hi.memory_cycle, hkept]
  · rw [cycle_of_error hok]

/-- **A cycle puts into its window what its word says.** -/
theorem memory_cycle_of_stores {m : Machine} {w a : Nat} (ha : a < 4096) (h : m.Stores w a) :
    m.Puts w a m.cycle.memory[a] := by
  have hfrom := h.start_le
  rcases h.le_end with ⟨hb, hto⟩ | ⟨hb, hto⟩
  · have hi := executes_of_pattern (i := .decimal (Fin.ofNat 16 (w / 256))) h.done h.fetched
      ⟨h.family, rfl, hb⟩
    have hput := m.memory.getElem_writeAll_of_inside (decimalDigits (m.registerX w)) ha
      hfrom (by rw [length_decimalDigits]; omega)
    refine ⟨?_, ?_⟩
    · intro _
      refine ⟨decimalDigits (m.registerX w), decimalNotation_decimalDigits _, ?_⟩
      simp only [hi.memory_cycle]
      exact hput
    · intro hb'
      omega
  · have hi := executes_of_pattern (i := .store (Fin.ofNat 16 (w / 256))) h.done h.fetched
      ⟨h.family, rfl, hb⟩
    have hlen := m.length_stored (Fin.ofNat 16 (w / 256))
    simp only [Fin.val_ofNat] at hlen
    have hput := m.memory.getElem_writeAll_of_inside
      (m.registers.toList.take (w / 256 % 16 + 1)) ha hfrom (by omega)
    refine ⟨?_, ?_⟩
    · intro hb'
      omega
    · intro _
      have hin : a - m.index.toNat < w / 256 % 16 + 1 := by omega
      rw [List.getElem?_take_of_lt hin, Vector.getElem?_toList] at hput
      simp only [hi.memory_cycle]
      exact hput

/-! ## The run -/

/-- **The last writer has the last word.**  After any number of cycles a byte of memory is the
one it was at the start if no cycle wrote to its address; otherwise it is the one the last
cycle that did has put there. -/
theorem memory_run_lastWriter (m : Machine) (n : Nat) (a : Address) :
    ((∀ k < n, ∀ w, ¬ (m.run k).Stores w a) ∧ (m.run n).memory.get a = m.memory.get a) ∨
    ∃ k < n, ∃ w, (m.run k).Stores w a ∧
      (∀ j, k < j → j < n → ∀ v, ¬ (m.run j).Stores v a) ∧
      (m.run k).Puts w a ((m.run n).memory.get a) := by
  obtain ⟨a, ha⟩ := a
  simp only [get_mk]
  induction n with
  | zero => exact Or.inl ⟨by simp, rfl⟩
  | succ n ih =>
    rw [run_succ]
    by_cases hlast : ∃ w, (m.run n).Stores w a
    · -- the last cycle wrote to the address
      obtain ⟨w, hw⟩ := hlast
      refine Or.inr ⟨n, Nat.lt_succ_self n, w, hw, ?_, memory_cycle_of_stores ha hw⟩
      intro j hj hjn
      omega
    · rw [not_exists] at hlast
      rw [memory_cycle_of_not_stores ha hlast]
      rcases ih with ⟨hnone, hsame⟩ | ⟨k, hk, w, hw, hlater, hput⟩
      · refine Or.inl ⟨?_, hsame⟩
        intro k hk v
        rcases Nat.lt_succ_iff_lt_or_eq.1 hk with hlt | rfl
        · exact hnone k hlt v
        · exact hlast v
      · refine Or.inr ⟨k, by omega, w, hw, ?_, hput⟩
        intro j hj hjn v
        rcases Nat.lt_succ_iff_lt_or_eq.1 hjn with hlt | rfl
        · exact hlater j hj hlt v
        · exact hlast v

end Machine

end ChipEight
