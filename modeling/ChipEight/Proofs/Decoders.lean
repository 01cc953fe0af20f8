import ChipEight.Instruction.Assembly
import ChipEight.Machine.Perform
import ChipEight.Proofs.LookupTables
import Mathlib.Data.List.Perm.Subperm
import Mathlib.Tactic.IntervalCases

/-!
# The two decoders

A word is read twice: `execute` finds the instruction in its tables of handlers, and `disassemble`
goes through a chain of tests.  This module says with one match on the fields which instruction a
word has, and that both readings find it.

* `Instruction.ofWord?` — the instruction of a word, and `Assembly.ofInstruction` — how it is
  written.
* `Instruction.placesOf_eq`, `Instruction.build_placed` — the tables of `dispatch_index`.
* `Instruction.byByte_eq` — a family that goes by the last byte.
* `Instruction.dispatch_eq`, `Machine.execute_eq` — the tables of handlers find the instruction.
* `Assembly.ofFields_eq`, `Assembly.ofWord_eq` — the chain of tests writes it.
-/

namespace ChipEight

/-! ## The instruction of a word -/

/-- Reads the operation from the last nibble of its word. -/
def AluOp.ofNibble? (n : Nibble) : Option AluOp :=
  match n.val with
  | 0x0 => some .copy
  | 0x1 => some .or
  | 0x2 => some .and
  | 0x3 => some .xor
  | 0x4 => some .add
  | 0x5 => some .sub
  | 0x6 => some .shiftRight
  | 0x7 => some .subReversed
  | 0xE => some .shiftLeft
  | _ => none

namespace Instruction

/-- The instruction with these fields.  Families `0`, `E` and `F` are told apart by
their last byte, family `8` by its last nibble; fields an instruction does not use
are ignored. -/
def ofFields? (f : Fields) : Option Instruction :=
  match f.family.val with
  | 0x0 =>
    match f.byte.toNat with
    | 0xE0 => some .clear
    | 0xEE => some .ret
    | _ => none
  | 0x1 => some (.jump f.address)
  | 0x2 => some (.call f.address)
  | 0x3 => some (.skipIf (.equalsByte f.x f.byte))
  | 0x4 => some (.skipIf (.differsByte f.x f.byte))
  | 0x5 => some (.skipIf (.equals f.x f.y))
  | 0x6 => some (.load f.x f.byte)
  | 0x7 => some (.increase f.x f.byte)
  | 0x8 => (AluOp.ofNibble? f.n).map fun op => .alu op f.x f.y
  | 0x9 => some (.skipIf (.differs f.x f.y))
  | 0xA => some (.setIndex f.address)
  | 0xB => some (.jumpOffset f.address)
  | 0xC => some (.random f.x f.byte)
  | 0xD => some (.draw f.x f.y f.n)
  | 0xE =>
    match f.byte.toNat with
    | 0x9E => some (.skipIf (.keyDown f.x))
    | 0xA1 => some (.skipIf (.keyUp f.x))
    | _ => none
  | _ =>
    match f.byte.toNat with
    | 0x07 => some (.readDelay f.x)
    | 0x0A => some (.awaitKey f.x)
    | 0x15 => some (.setDelay f.x)
    | 0x18 => some (.setSound f.x)
    | 0x1E => some (.addIndex f.x)
    | 0x29 => some (.glyph f.x)
    | 0x33 => some (.decimal f.x)
    | 0x55 => some (.store f.x)
    | 0x65 => some (.restore f.x)
    | _ => none

/-- The instruction of a word, if it has one. -/
def ofWord? (word : Int) : Option Instruction := ofFields? (Fields.ofWord word)

end Instruction

namespace Assembly

/-- The mnemonic of an operation on two registers. -/
def aluMnemonic : AluOp → String
  | .copy => "LD"
  | .or => "OR"
  | .and => "AND"
  | .xor => "XOR"
  | .add => "ADD"
  | .sub => "SUB"
  | .shiftRight => "SHR"
  | .subReversed => "SUBN"
  | .shiftLeft => "SHL"

/-- A skip is named for when it skips. -/
def ofTest : Test → Assembly
  | .equalsByte x b => ⟨"SE", [register x, byte b]⟩
  | .differsByte x b => ⟨"SNE", [register x, byte b]⟩
  | .equals x y => ⟨"SE", [register x, register y]⟩
  | .differs x y => ⟨"SNE", [register x, register y]⟩
  | .keyDown x => ⟨"SKP", [register x]⟩
  | .keyUp x => ⟨"SKNP", [register x]⟩

/-- How an instruction is written. -/
def ofInstruction : Instruction → Assembly
  | .clear => ⟨"CLS", []⟩
  | .ret => ⟨"RET", []⟩
  | .jump a => ⟨"JP", [address a]⟩
  | .call a => ⟨"CALL", [address a]⟩
  | .skipIf t => ofTest t
  | .load x b => ⟨"LD", [register x, byte b]⟩
  | .increase x b => ⟨"ADD", [register x, byte b]⟩
  | .alu op x y => ⟨aluMnemonic op, [register x, register y]⟩
  | .setIndex a => ⟨"LD", ["I", address a]⟩
  | .jumpOffset a => ⟨"JP", ["V0", address a]⟩
  | .random x b => ⟨"RND", [register x, byte b]⟩
  | .draw x y n => ⟨"DRW", [register x, register y, Text.decimal n.val]⟩
  | .readDelay x => ⟨"LD", [register x, "DT"]⟩
  | .awaitKey x => ⟨"LD", [register x, "K"]⟩
  | .setDelay x => ⟨"LD", ["DT", register x]⟩
  | .setSound x => ⟨"LD", ["ST", register x]⟩
  | .addIndex x => ⟨"ADD", ["I", register x]⟩
  | .glyph x => ⟨"LD", ["F", register x]⟩
  | .decimal x => ⟨"LD", ["B", register x]⟩
  | .store x => ⟨"LD", ["[I]", register x]⟩
  | .restore x => ⟨"LD", [register x, "[I]"]⟩

end Assembly

/-! ## The tables of handlers -/

namespace Instruction

/-- The place of a byte in a row of bytes with their places. -/
theorem getD_lookup_zipIdx (bytes : List Nat) (b start : Nat) :
    (((bytes.zipIdx start).map fun e => (e.1, (e.2 : Int))).lookup b).getD
      ((start + bytes.length : Nat) : Int) = ((start + bytes.idxOf b : Nat) : Int) := by
  induction bytes generalizing start with
  | nil => rfl
  | cons c rest ih =>
    have hlength : start + (c :: rest).length = start + 1 + rest.length := by
      rw [List.length_cons]
      omega
    rw [List.zipIdx_cons, List.map_cons, List.lookup_cons]
    by_cases hc : c = b
    · rw [hc, beq_self_eq_true, List.idxOf_cons_self]
      rfl
    · rw [beq_false_of_ne (Ne.symm hc), List.idxOf_cons_ne rest hc, hlength]
      refine (ih (start + 1)).trans ?_
      congr 1
      omega

/-- The handler at the place of a byte is the one it has. -/
theorem getD_idxOf (handlers : List (Nat × Handler)) (b : Nat) :
    (handlers.map Prod.snd ++ [unknown]).getD ((handlers.map Prod.fst).idxOf b) unknown =
      (handlers.lookup b).getD unknown := by
  induction handlers with
  | nil => rfl
  | cons h rest ih =>
    rw [List.map_cons, List.map_cons, List.lookup_cons]
    by_cases hb : h.1 = b
    · rw [hb, beq_self_eq_true, List.idxOf_cons_self]
      rfl
    · rw [beq_false_of_ne (Ne.symm hb), List.idxOf_cons_ne _ hb]
      exact ih

/-- A row of different bytes. -/
structure Distinct (bytes : List Nat) : Prop where
  nodup : bytes.Nodup
  isByte : ∀ b ∈ bytes, b < 256

section

variable {bytes : List Nat}

theorem Distinct.length_le (h : Distinct bytes) : bytes.length ≤ 256 := by
  have hsubset : bytes ⊆ List.range 256 := fun b hb => List.mem_range.2 (h.isByte b hb)
  have hle := (List.subperm_of_subset h.nodup hsubset).length_le
  rwa [List.length_range] at hle

/-- The bytes of a row with their places, as numbers. -/
def branchesOf (bytes : List Nat) : List (Nat × Int) :=
  bytes.zipIdx.map fun e => (e.1, (e.2 : Int))

theorem placed_eq_numbered (bytes : List Nat) :
    placed bytes = LookupTable.numbered (branchesOf bytes) := by
  rw [placed, LookupTable.numbered, branchesOf, List.map_map]
  rfl

theorem map_fst_branchesOf (bytes : List Nat) : (branchesOf bytes).map Prod.fst = bytes := by
  rw [branchesOf, List.map_map]
  exact List.zipIdx_map_fst 0 bytes

theorem Distinct.fit (h : Distinct bytes) : LookupTable.Fit (branchesOf bytes) 256 := by
  constructor
  · intro e he
    obtain ⟨p, hp, rfl⟩ := List.mem_map.1 he
    exact h.isByte p.1 (List.fst_mem_of_mem_zipIdx hp)
  · intro e he
    obtain ⟨p, hp, rfl⟩ := List.mem_map.1 he
    have hplace := List.snd_lt_of_mem_zipIdx hp
    have hle := h.length_le
    refine decide_eq_true ?_
    show -0x80000000 ≤ (p.2 : Int) ∧ (p.2 : Int) ≤ 0x7FFFFFFF
    omega

/-- What `dispatch_index` fills a table of all bytes with: the place of every byte of the row, and
the end of the row for all others. -/
theorem fill_placed (h : Distinct bytes) :
    LookupTable.fill (placed bytes) 256 =
      .ok ((List.range 256).map fun b => (bytes.idxOf b : Int)) := by
  have hnodup : ((branchesOf bytes).map Prod.fst).Nodup := by
    rw [map_fst_branchesOf]
    exact h.nodup
  have hlength : (branchesOf bytes).length = 0 + bytes.length := by
    rw [branchesOf, List.length_map, List.length_zipIdx, Nat.zero_add]
  rw [placed_eq_numbered, LookupTable.fill_numbered hnodup h.fit (by decide), hlength]
  congr 2
  funext b
  exact (getD_lookup_zipIdx bytes b 0).trans (by rw [Nat.zero_add])

theorem placesOf_eq (h : Distinct bytes) :
    placesOf bytes = (List.range 256).map fun b => (bytes.idxOf b : Int) := by
  rw [placesOf, fill_placed h]

/-- The tables are those of `dispatch_index` on every host with room for them. -/
theorem build_placed (h : Distinct bytes) {room : Nat} (hroom : 1024 ≤ room) :
    LookupTable.build room (placed bytes) (.int 256) = .ok (placesOf bytes) := by
  have hpos : 0 < 256 := by decide
  have hcount : 4 * 256 < Capacity.countable := by decide
  rw [placesOf_eq h, ← fill_placed h]
  exact LookupTable.build_eq_fill (placed bytes) hpos hroom hcount

end

/-- **A family that goes by the last byte** does what the handler of the byte does, and takes bytes
without one for undefined. -/
theorem byByte_eq {handlers : List (Nat × Handler)} (h : Distinct (handlers.map Prod.fst))
    (f : Fields) :
    byByte (placesOf (handlers.map Prod.fst)) handlers f =
      (handlers.lookup f.byte.toNat).getD unknown f := by
  have hplace : (handlers.map Prod.fst).idxOf f.byte.toNat ≤ handlers.length := by
    have hle := List.idxOf_le_length (l := handlers.map Prod.fst) (a := f.byte.toNat)
    rwa [List.length_map] at hle
  have hlast : (handlers.map Prod.snd ++ [unknown]).length - 1 = handlers.length := by simp
  rw [byByte, placesOf_eq h, List.getD_eq_getElem?_getD, List.getElem?_map,
    List.getElem?_range f.byte.toNat_lt, Option.map_some, Option.getD_some, switch,
    Int.toNat_natCast, hlast, Nat.min_eq_left hplace, getD_idxOf]

/-- A byte that no handler has is undefined. -/
theorem byByte_of_notMem {handlers : List (Nat × Handler)}
    (h : Distinct (handlers.map Prod.fst)) {f : Fields}
    (hb : f.byte.toNat ∉ handlers.map Prod.fst) :
    byByte (placesOf (handlers.map Prod.fst)) handlers f = none := by
  have hnone : handlers.lookup f.byte.toNat = none := by
    rw [List.lookup_eq_none_iff]
    intro e he
    rw [bne_iff_ne]
    exact fun heq => hb (List.mem_map.2 ⟨e, he, heq.symm⟩)
  rw [byByte_eq h, hnone]
  rfl

/-- Family `8` goes by the last nibble. -/
theorem switch_aluHandlers (f : Fields) :
    switch f.n.val aluHandlers f = (AluOp.ofNibble? f.n).map fun op => .alu op f.x f.y := by
  have hn := f.n.isLt
  rw [AluOp.ofNibble?]
  generalize f.n.val = n at hn ⊢
  interval_cases n <;> rfl

/-- Family `0`, byte by byte. -/
theorem byByte_systemHandlers (f : Fields) :
    byByte systemTable systemHandlers f =
      match f.byte.toNat with
      | 0xE0 => some .clear
      | 0xEE => some .ret
      | _ => none := by
  have hdistinct : Distinct (systemHandlers.map Prod.fst) := ⟨by decide, by decide⟩
  rw [systemTable]
  split
  case h_3 =>
    apply byByte_of_notMem hdistinct
    simp only [systemHandlers, List.map_cons, List.map_nil, List.mem_cons, List.not_mem_nil,
      or_false, not_or]
    and_intros <;> assumption
  all_goals
    rename_i hbyte
    rw [byByte_eq hdistinct, hbyte]
    rfl

/-- Family `E`, byte by byte. -/
theorem byByte_keyHandlers (f : Fields) :
    byByte keyTable keyHandlers f =
      match f.byte.toNat with
      | 0x9E => some (.skipIf (.keyDown f.x))
      | 0xA1 => some (.skipIf (.keyUp f.x))
      | _ => none := by
  have hdistinct : Distinct (keyHandlers.map Prod.fst) := ⟨by decide, by decide⟩
  rw [keyTable]
  split
  case h_3 =>
    apply byByte_of_notMem hdistinct
    simp only [keyHandlers, List.map_cons, List.map_nil, List.mem_cons, List.not_mem_nil,
      or_false, not_or]
    and_intros <;> assumption
  all_goals
    rename_i hbyte
    rw [byByte_eq hdistinct, hbyte]
    rfl

/-- Family `F`, byte by byte. -/
theorem byByte_miscHandlers (f : Fields) :
    byByte miscTable miscHandlers f =
      match f.byte.toNat with
      | 0x07 => some (.readDelay f.x)
      | 0x0A => some (.awaitKey f.x)
      | 0x15 => some (.setDelay f.x)
      | 0x18 => some (.setSound f.x)
      | 0x1E => some (.addIndex f.x)
      | 0x29 => some (.glyph f.x)
      | 0x33 => some (.decimal f.x)
      | 0x55 => some (.store f.x)
      | 0x65 => some (.restore f.x)
      | _ => none := by
  have hdistinct : Distinct (miscHandlers.map Prod.fst) := ⟨by decide, by decide⟩
  rw [miscTable]
  split
  case h_10 =>
    apply byByte_of_notMem hdistinct
    simp only [miscHandlers, List.map_cons, List.map_nil, List.mem_cons, List.not_mem_nil,
      or_false, not_or]
    and_intros <;> assumption
  all_goals
    rename_i hbyte
    rw [byByte_eq hdistinct, hbyte]
    rfl

/-- **The tables of handlers find the instruction** of every family. -/
theorem dispatch_eq (f : Fields) : dispatch f = ofFields? f := by
  have hswitch : dispatch f = switch f.family.val families f := rfl
  unfold ofFields?
  rw [hswitch]
  split
  case h_1 hfamily =>
    rw [hfamily]
    exact byByte_systemHandlers f
  case h_9 hfamily =>
    rw [hfamily]
    exact switch_aluHandlers f
  case h_15 hfamily =>
    rw [hfamily]
    exact byByte_keyHandlers f
  case h_16 =>
    -- the family that is left over
    have hfamily : f.family.val = 15 := by
      have hlt := f.family.isLt
      grind
    rw [hfamily]
    exact byByte_miscHandlers f
  all_goals
    rename_i hfamily
    rw [hfamily]
    rfl

end Instruction

/-- **To execute a word is to perform its instruction**; a word without one is a fault. -/
theorem Machine.execute_eq (m : Machine) (word : Int) :
    m.execute word =
      match Instruction.ofWord? word with
      | some i => m.perform i
      | none => m.stopIf true .unknownOpcode := by
  rw [execute, Instruction.dispatch_eq]
  rfl

/-! ## The chain of tests -/

namespace Assembly

/-- Family `8` has a mnemonic for every operation. -/
theorem lookup_aluMnemonics (n : Nibble) :
    aluMnemonics.lookup n.val = (AluOp.ofNibble? n).map aluMnemonic := by
  revert n
  decide

/-- The tests of family `0` write what its handlers find. -/
theorem ofSystem_eq (f : Fields) :
    ofSystem f =
      (Instruction.byByte Instruction.systemTable Instruction.systemHandlers f).elim unknown
        ofInstruction := by
  rw [Instruction.byByte_systemHandlers]
  split
  case h_3 =>
    rw [ofSystem, if_neg ‹_›, if_neg ‹_›]
    rfl
  all_goals
    rename_i hbyte
    rw [ofSystem, hbyte]
    rfl

/-- Those of family `E` do. -/
theorem ofKeyTest_eq (f : Fields) :
    ofKeyTest f =
      (Instruction.byByte Instruction.keyTable Instruction.keyHandlers f).elim unknown
        ofInstruction := by
  rw [Instruction.byByte_keyHandlers]
  split
  case h_3 =>
    rw [ofKeyTest, if_neg ‹_›, if_neg ‹_›]
    rfl
  all_goals
    rename_i hbyte
    rw [ofKeyTest, hbyte]
    rfl

/-- Those of family `F` do. -/
theorem ofMisc_eq (f : Fields) :
    ofMisc f =
      (Instruction.byByte Instruction.miscTable Instruction.miscHandlers f).elim unknown
        ofInstruction := by
  rw [Instruction.byByte_miscHandlers]
  split
  case h_10 =>
    have hnone : (loads (register f.x)).lookup f.byte.toNat = none := by
      rw [List.lookup_eq_none_iff]
      simp only [loads, List.forall_mem_cons, bne_iff_ne]
      and_intros <;> first | assumption | simp
    rw [ofMisc, if_neg ‹_›, hnone]
    rfl
  all_goals
    rename_i hbyte
    rw [ofMisc, hbyte]
    rfl

/-- **The chain of tests writes the instruction** that the fields have. -/
theorem ofFields_eq (f : Fields) :
    ofFields f = (Instruction.ofFields? f).elim unknown ofInstruction := by
  unfold Instruction.ofFields?
  split
  case h_1 hfamily =>
    rw [ofFields, hfamily, ← Instruction.byByte_systemHandlers]
    exact ofSystem_eq f
  case h_9 hfamily =>
    rw [ofFields, hfamily]
    show ofAlu f = _
    rw [ofAlu, lookup_aluMnemonics]
    cases AluOp.ofNibble? f.n <;> rfl
  case h_15 hfamily =>
    rw [ofFields, hfamily, ← Instruction.byByte_keyHandlers]
    exact ofKeyTest_eq f
  case h_16 =>
    -- the family that is left over
    have hfamily : f.family.val = 15 := by
      have hlt := f.family.isLt
      grind
    rw [ofFields, hfamily, ← Instruction.byByte_miscHandlers]
    exact ofMisc_eq f
  all_goals
    rename_i hfamily
    rw [ofFields, hfamily]
    rfl

/-- How a word is written is how its instruction is written. -/
theorem ofWord_eq (word : Int) :
    ofWord word = (Instruction.ofWord? word).elim unknown ofInstruction :=
  ofFields_eq (Fields.ofWord word)

end Assembly

end ChipEight
