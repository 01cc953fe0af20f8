import ChipEight.LookupTable
import ChipEight.Proofs.Numerals
import ChipEight.Proofs.Room
import Mathlib.Data.List.Nodup

/-!
# What is in a lookup table

`dispatch_index` builds a table from branches by number.  If no number comes twice, all of them are
below the size and the branches fit into the table, then the table has the branch of every number
that has one, and the count of the numbers everywhere else.

* `LookupTable.key_int_injective` — whole numbers are told apart by their keys.
* `LookupTable.getElem?_assignAll` — what is in a table after branches were put into it.
* `LookupTable.fill_numbered` — the table that is built, and `LookupTable.build_eq_fill` — if there
  is room for it.
-/

namespace ChipEight

namespace Ordered

section

variable {α β : Type} [DecidableEq α]

/-- A new key comes last. -/
theorem put_of_notMem {key : α} {value : β} {entries : List (α × β)}
    (h : key ∉ entries.map Prod.fst) : put key value entries = entries ++ [(key, value)] := by
  induction entries with
  | nil => rfl
  | cons e rest ih =>
    rw [List.map_cons, List.mem_cons, not_or] at h
    rw [put, if_neg (Ne.symm h.1), ih h.2, List.cons_append]

/-- Keys that are all different are put behind each other. -/
theorem putAll_of_nodup {entries changes : List (α × β)}
    (h : ((entries ++ changes).map Prod.fst).Nodup) :
    putAll entries changes = entries ++ changes := by
  induction changes generalizing entries with
  | nil => exact (List.append_nil entries).symm
  | cons c rest ih =>
    have hnew : c.1 ∉ entries.map Prod.fst := by
      rw [List.map_append, List.nodup_append] at h
      intro hmem
      exact h.2.2 c.1 hmem c.1 (List.mem_map_of_mem List.mem_cons_self) rfl
    have hassoc : entries ++ c :: rest = entries ++ [c] ++ rest := by simp
    rw [hassoc] at h ⊢
    rw [putAll, List.foldl_cons, put_of_notMem hnew]
    exact ih h

end

end Ordered

namespace LookupTable

/-- Branches by number as a host gives them. -/
def numbered (branches : List (Nat × Int)) : List (Value × Value) :=
  branches.map fun b => (.int b.1, .int b.2)

/-- Whole numbers are told apart by their keys. -/
theorem key_int_injective {m n : Int} (h : key (.int m) = key (.int n)) : m = n := by
  have hdecimal : Text.decimal m = Text.decimal n := h
  rw [← Text.signedValue_decimal m, ← Text.signedValue_decimal n, hdecimal]

theorem distinct_numbered {branches : List (Nat × Int)} (h : (branches.map Prod.fst).Nodup) :
    distinct (numbered branches) = numbered branches := by
  have hkeys : (((numbered branches).map fun e => (key e.1, e)).map Prod.fst).Nodup := by
    have hinjective : Function.Injective fun n : Nat => key (.int n) := by
      intro m n hkey
      exact Int.ofNat.inj (key_int_injective hkey)
    have hmap := h.map hinjective
    simpa only [numbered, List.map_map, Function.comp_def] using hmap
  rw [distinct, Ordered.putAll_of_nodup (by rwa [List.nil_append]), List.nil_append, List.map_map]
  exact List.map_id _

/-! ## Putting branches into a table -/

/-- Whether branches can be put into a table of a size. -/
structure Fit (branches : List (Nat × Int)) (size : Nat) : Prop where
  below : ∀ b ∈ branches, b.1 < size
  holds : ∀ b ∈ branches, WordFormat.signed32.holds b.2 = true

theorem assign_numbered {table : List Int} {n : Nat} {branch : Int} (hn : n < table.length)
    (hlong : table.length < Capacity.countable) (hb : WordFormat.signed32.holds branch = true) :
    assign table (.int n) (.int branch) = .ok (table.set n branch) := by
  have hcountable : Capacity.countable = 0x8000000000000000 := rfl
  have hn' : isLong n = true := by
    simp only [isLong, decide_eq_true_eq]
    omega
  have hplace : place? table.length n = some n := by
    rw [place?, if_pos (by omega), Int.toNat_natCast]
  have hentry : entry (.int branch) = .ok branch := by
    simp only [entry, Value.word, Value.whole, WordFormat.fit, hb, if_true]
    rfl
  simp only [assign, Index.ofValue, hn', if_true, hplace, hentry]
  rfl

/-- Puts branches into a table. -/
def assignAll (table : List Int) (branches : List (Nat × Int)) : List Int :=
  branches.foldl (fun table b => table.set b.1 b.2) table

/-- Branches that fit are all put in. -/
theorem foldlM_assign {branches : List (Nat × Int)} {table : List Int}
    (h : Fit branches table.length) (hlong : table.length < Capacity.countable) :
    (numbered branches).foldlM (fun table e => assign table e.1 e.2) table =
      .ok (assignAll table branches) := by
  induction branches generalizing table with
  | nil => rfl
  | cons b rest ih =>
    have hfirst := assign_numbered (h.below b List.mem_cons_self) hlong
      (h.holds b List.mem_cons_self)
    have hrest : Fit rest (table.set b.1 b.2).length := by
      rw [List.length_set]
      exact ⟨fun c hc => h.below c (List.mem_cons_of_mem b hc),
        fun c hc => h.holds c (List.mem_cons_of_mem b hc)⟩
    rw [numbered, List.map_cons, List.foldlM_cons, hfirst]
    exact ih hrest (by rwa [List.length_set])

/-- A number that comes once has its branch in the table, and a number without one what was
there. -/
theorem getElem?_assignAll {branches : List (Nat × Int)} (h : (branches.map Prod.fst).Nodup)
    (table : List Int) (n : Nat) :
    (assignAll table branches)[n]? = table[n]?.map fun old => (branches.lookup n).getD old := by
  induction branches generalizing table with
  | nil => simp [assignAll]
  | cons b rest ih =>
    rw [List.map_cons, List.nodup_cons] at h
    have hstep : assignAll table (b :: rest) = assignAll (table.set b.1 b.2) rest := rfl
    rw [hstep, ih h.2, List.lookup_cons]
    by_cases hn : n = b.1
    · -- no later branch has the number again
      have hnone : rest.lookup n = none := by
        rw [List.lookup_eq_none_iff]
        intro c hc
        rw [bne_iff_ne, hn]
        exact fun heq => h.1 (List.mem_map.2 ⟨c, hc, heq.symm⟩)
      rw [hnone, hn, beq_self_eq_true, List.getElem?_set_self']
      cases table[b.1]? <;> rfl
    · rw [beq_false_of_ne hn, List.getElem?_set_ne (Ne.symm hn)]

/-! ## The table that is built -/

variable {branches : List (Nat × Int)} {size : Nat}

/-- **The table has the branch of every number that has one**, and the count of the numbers
elsewhere. -/
theorem fill_numbered (hnodup : (branches.map Prod.fst).Nodup) (hfit : Fit branches size)
    (hlong : size < Capacity.countable) :
    fill (numbered branches) size =
      .ok ((List.range size).map fun n => (branches.lookup n).getD branches.length) := by
  have hlength : (numbered branches).length = branches.length := List.length_map ..
  have hsize : (List.replicate size (branches.length : Int)).length = size := List.length_replicate
  simp only [fill, distinct_numbered hnodup, hlength]
  rw [foldlM_assign (by rwa [hsize]) (by rwa [hsize])]
  congr 1
  refine List.ext_getElem? fun n => ?_
  rw [getElem?_assignAll hnodup, List.getElem?_map]
  by_cases hn : n < size
  · rw [List.getElem?_replicate_of_lt hn, List.getElem?_range hn]
    rfl
  · rw [List.getElem?_eq_none (by omega), List.getElem?_eq_none (by simp; omega)]
    rfl

/-- A host with room for a table builds it. -/
theorem build_eq_fill {room : Nat} (entries : List (Value × Value)) (hpos : 0 < size)
    (hroom : 4 * size ≤ room) (hcount : 4 * size < Capacity.countable) :
    build room entries (.int size) = fill entries size := by
  have hlong : isLong size = true := by
    have hcountable : Capacity.countable = 0x8000000000000000 := rfl
    simp only [isLong, decide_eq_true_eq]
    omega
  have hcheck : Capacity.check room "int32" 4 [(size : Int)] = .ok () := by
    have hlist : [(size : Int)] = [size].map Int.ofNat := rfl
    have helements : Capacity.elements [size] = size := Nat.mul_one size
    rw [hlist, Capacity.check_eq_ok_iff (by decide) (by simpa using hpos), helements]
    exact ⟨hroom, hcount⟩
  have hsize : sizeOf room (.int size) = .ok size := by
    simp only [sizeOf, sizeOf.counted, hlong, if_true, hcheck, Int.toNat_natCast]
  rw [build, hsize]
  rfl

end LookupTable

end ChipEight
