import ChipEight.Proofs.Operations
import Mathlib.Data.Finset.Dedup
import Mathlib.Data.Finset.Erase
import Mathlib.Data.Finset.Insert

/-!
# The keypad is the set of held keys

A host says which keys are held by a list of their numbers or a list with a truth value for each key
(`set_keys`), or by moving a single key (`press_key`, `release_key`).  Some of what it says is
refused: a number that is no key, and a list of truth values of another length.  For all that
follows, the keypad is then a set of numbers.  A list replaces it, a key that goes down joins it, a
key that goes up leaves it, and what is refused changes nothing, in any order and for as long as the
host likes.

* `Keypad.numbers` — the numbers of the held keys, as a set.
* `KeyCall` — what a host can say, with `KeyCall.Stray`, what is refused of it, `KeyCall.complaint`,
  why, and `KeyCall.track`, what it does to a set.
* `Session.perform_keyCall` — what it does to a session.
* `Session.keypad_tracks` — the keypad after any number of calls.
-/

namespace ChipEight

/-! ## Keys as numbers -/

/-- Whether a number is that of a key. -/
def IsKey (k : Int) : Prop := 0 ≤ k ∧ k < 16

instance (k : Int) : Decidable (IsKey k) := inferInstanceAs (Decidable (0 ≤ k ∧ k < 16))

/-- The key of a number. -/
theorem val_ofNat_toNat {k : Int} (h : IsKey k) : ((Fin.ofNat 16 k.toNat).val : Int) = k := by
  obtain ⟨hlow, hhigh⟩ := h
  rw [Fin.val_ofNat]
  omega

namespace Keypad

/-- The numbers of the held keys. -/
def numbers (pad : Keypad) : Finset Int := (pad.held.map fun k => (k.val : Int)).toFinset

theorem mem_numbers {pad : Keypad} {k : Int} :
    k ∈ pad.numbers ↔ ∃ x : Nibble, pad.get x = true ∧ (x.val : Int) = k := by
  simp [numbers, held]

theorem get_set (pad : Keypad) {k : Nat} (hk : k < 16) (x : Nibble) (down : Bool) :
    Vector.get (pad.set k down hk) x = if k = x.val then down else pad.get x := by
  obtain ⟨x, hx⟩ := x
  simp only [get_mk, Vector.getElem_set]

/-- A key that goes down joins the others. -/
theorem numbers_set_true (pad : Keypad) {k : Nat} (hk : k < 16) :
    numbers (pad.set k true hk) = insert (k : Int) pad.numbers := by
  ext j
  rw [Finset.mem_insert, mem_numbers, mem_numbers]
  constructor
  · rintro ⟨x, hheld, rfl⟩
    by_cases hkx : k = x.val
    · exact Or.inl (by rw [hkx])
    · rw [get_set, if_neg hkx] at hheld
      exact Or.inr ⟨x, hheld, rfl⟩
  · rintro (rfl | ⟨x, hheld, rfl⟩)
    · exact ⟨⟨k, hk⟩, by rw [get_set, if_pos rfl], rfl⟩
    · exact ⟨x, by rw [get_set, hheld, ite_self], rfl⟩

/-- A key that goes up leaves the others. -/
theorem numbers_set_false (pad : Keypad) {k : Nat} (hk : k < 16) :
    numbers (pad.set k false hk) = pad.numbers.erase (k : Int) := by
  ext j
  rw [Finset.mem_erase, mem_numbers, mem_numbers]
  constructor
  · rintro ⟨x, hheld, rfl⟩
    by_cases hkx : k = x.val
    · rw [get_set, if_pos hkx] at hheld
      cases hheld
    · rw [get_set, if_neg hkx] at hheld
      exact ⟨by omega, x, hheld, rfl⟩
  · rintro ⟨hne, x, hheld, rfl⟩
    have hkx : k ≠ x.val := by omega
    exact ⟨x, by rw [get_set, if_neg hkx, hheld], rfl⟩

/-- Keys that are selected by their numbers are these. -/
theorem numbers_ofKeys {keys : List Int} (h : ∀ k ∈ keys, IsKey k) :
    numbers (ofKeys (keys.map fun k => Fin.ofNat 16 k.toNat)) = keys.toFinset := by
  ext k
  rw [mem_numbers, List.mem_toFinset]
  constructor
  · rintro ⟨x, hheld, rfl⟩
    obtain ⟨j, hj, rfl⟩ := List.mem_map.1 ((get_ofKeys _ x).1 hheld)
    rwa [val_ofNat_toNat (h j hj)]
  · intro hk
    exact ⟨_, (get_ofKeys _ _).2 (List.mem_map_of_mem hk), val_ofNat_toNat (h k hk)⟩

/-- The places in a row that are true. -/
def placesOf (cells : List Bool) : Finset Int :=
  (((List.range cells.length).filter fun i => cells.getD i false).map Int.ofNat).toFinset

theorem mem_placesOf {cells : List Bool} {k : Int} :
    k ∈ placesOf cells ↔ ∃ i : Nat, cells[i]? = some true ∧ (i : Int) = k := by
  have hcell : ∀ i, (i < cells.length ∧ cells.getD i false = true) ↔ cells[i]? = some true := by
    intro i
    rw [List.getD_eq_getElem?_getD]
    cases hi : cells[i]? with
    | none => simp
    | some b => simpa using fun _ => (List.getElem?_eq_some_iff.1 hi).1
  simp only [placesOf, List.mem_toFinset, List.mem_map, List.mem_filter, List.mem_range, hcell,
    Int.ofNat_eq_natCast]

/-- Keys that are selected by a mask are its true places. -/
theorem numbers_ofFn {cells : List Bool} (h : cells.length = 16) :
    numbers (Vector.ofFn fun k => cells.getD k.val false) = placesOf cells := by
  have hcell : ∀ i (hi : i < 16),
      (Vector.ofFn fun k : Nibble => cells.getD k.val false).get ⟨i, hi⟩ = true ↔
        cells[i]? = some true := by
    intro i hi
    rw [get_mk, Vector.getElem_ofFn, List.getD_eq_getElem?_getD, List.getElem?_eq_getElem (by omega)]
    simp
  ext k
  rw [mem_numbers, mem_placesOf]
  constructor
  · rintro ⟨⟨i, hi⟩, hheld, rfl⟩
    exact ⟨i, (hcell i hi).1 hheld, rfl⟩
  · rintro ⟨i, hset, rfl⟩
    have hi : i < 16 := h ▸ (List.getElem?_eq_some_iff.1 hset).1
    exact ⟨⟨i, hi⟩, (hcell i hi).2 hset, rfl⟩

end Keypad

/-! ## How lists are read -/

namespace KeySelection

theorem unsigned_of_isLong {n : Int} (h : isLong n = true) : unsigned (.int n) = some n := by
  have hlong : -0x8000000000000000 ≤ n ∧ n < 0x8000000000000000 := of_decide_eq_true h
  rw [unsigned, Int.bmod_eq_of_le (by omega) (by omega)]

/-- Numbers of 64 bits with a sign share a kind that has room for all of them. -/
theorem sharedKind_ints {ns : List Int} (h : ∀ n ∈ ns, isLong n = true) :
    sharedKind (ns.map .int) = unsigned := by
  have hints : (ns.map Value.int).filterMap written? = ns := by
    rw [List.filterMap_map]
    exact List.filterMap_some
  have hfloat : (ns.map Value.int).any isFloat = false := by simp [isFloat]
  have hlarge : (ns.any fun n => decide (0x8000000000000000 ≤ n)) = false := by
    rw [List.any_eq_false]
    intro n hn
    have hlong : -0x8000000000000000 ≤ n ∧ n < 0x8000000000000000 := of_decide_eq_true (h n hn)
    rw [decide_eq_true_eq]
    omega
  simp only [sharedKind, hints, hfloat, hlarge, Bool.false_and, Bool.or_self, Bool.false_eq_true,
    if_false]

theorem numbersOf_ints {ns : List Int} (h : ∀ n ∈ ns, isLong n = true) :
    numbersOf (ns.map .int) = .ok ns := by
  have halone : (ns.map Value.int).any standsAlone = false := by
    rw [List.any_map, List.any_eq_false]
    intro n hn
    have hlong : -0x8000000000000000 ≤ n ∧ n < 0x8000000000000000 := of_decide_eq_true (h n hn)
    rw [Function.comp_apply, standsAlone, decide_eq_true_eq]
    omega
  have htext : (ns.map Value.int).any isText = false := by simp [isText]
  have hread : (ns.map Value.int).filterMap unsigned = ns := by
    rw [List.filterMap_map]
    exact (List.filterMap_congr fun n hn => unsigned_of_isLong (h n hn)).trans List.filterMap_some
  simp only [numbersOf, halone, htext, sharedKind_ints h, hread, Bool.false_eq_true, if_false]

/-- **A list of numbers names the keys with these numbers.** -/
theorem ofValues_ints {ns : List Int} (h : ∀ n ∈ ns, isLong n = true) :
    ofValues (ns.map .int) = .ok (.numbers ns) := by
  have hflat : ∀ v ∈ ns.map Value.int, v.isLeaf = true := by simp [Value.isLeaf]
  simp only [ofValues, Value.shape_flat _ hflat, Value.allLeaves_flat _ hflat, numbersOf_ints h]
  cases ns with
  | nil => rfl
  | cons n rest =>
    have hnone : (Value.int n :: rest.map .int).mapM truth? = none := by rw [List.mapM_cons]; rfl
    rw [List.map_cons, hnone]
    rfl

theorem mapM_truth?_bools (cells : List Bool) : (cells.map Value.bool).mapM truth? = some cells := by
  induction cells with
  | nil => rfl
  | cons b rest ih =>
    rw [List.map_cons, List.mapM_cons, ih]
    rfl

/-- **A list of truth values is a mask**, unless it is empty: then no key is held. -/
theorem ofValues_bools (cells : List Bool) :
    ofValues (cells.map .bool) =
      .ok (if cells = [] then .numbers [] else .mask [cells.length] cells) := by
  have hflat : ∀ v ∈ cells.map Value.bool, v.isLeaf = true := by
    intro v hv
    obtain ⟨b, -, rfl⟩ := List.mem_map.1 hv
    rfl
  simp only [ofValues, Value.shape_flat _ hflat, Value.allLeaves_flat _ hflat, mapM_truth?_bools,
    List.length_map]
  cases cells with
  | nil => rfl
  | cons b rest => rfl

end KeySelection

/-! ## Calls -/

/-- What a host can say about the keys. -/
inductive KeyCall
  /-- The keys with these numbers are held and no others. -/
  | numbers (keys : List Int)
  /-- The keys whose places are true are held and no others. -/
  | mask (cells : List Bool)
  /-- A key goes down. -/
  | press (key : Int)
  /-- A key goes up. -/
  | release (key : Int)
deriving DecidableEq, Repr

namespace KeyCall

/-- The command of a call.  Both kinds of lists are handed over as plain lists of values. -/
def command : KeyCall → Command
  | .numbers keys => .hold (.value (.list (keys.map .int)))
  | .mask cells => .hold (.value (.list (cells.map .bool)))
  | .press key => .press key
  | .release key => .release key

/-- The numbers of a list have 64 bits with a sign; a number by itself may have any. -/
def Fits : KeyCall → Prop
  | .numbers keys => ∀ k ∈ keys, isLong k = true
  | _ => True

instance : DecidablePred Fits
  | .numbers keys => inferInstanceAs (Decidable (∀ k ∈ keys, isLong k = true))
  | .mask _ => .isTrue trivial
  | .press _ => .isTrue trivial
  | .release _ => .isTrue trivial

/-- Some number is that of no key, or there is not one truth value for each key. -/
def Stray : KeyCall → Prop
  | .numbers keys => ∃ k ∈ keys, ¬ IsKey k
  | .mask cells => cells ≠ [] ∧ cells.length ≠ 16
  | .press key => ¬ IsKey key
  | .release key => ¬ IsKey key

instance : DecidablePred Stray
  | .numbers keys => inferInstanceAs (Decidable (∃ k ∈ keys, ¬ IsKey k))
  | .mask cells => inferInstanceAs (Decidable (cells ≠ [] ∧ cells.length ≠ 16))
  | .press key => inferInstanceAs (Decidable (¬ IsKey key))
  | .release key => inferInstanceAs (Decidable (¬ IsKey key))

/-- What is said of a stray call. -/
def complaint : KeyCall → KeyError
  | .numbers keys => .outOfRange keys
  | .mask cells => .maskShape [cells.length]
  | .press key => .noSuchKey key
  | .release key => .noSuchKey key

/-- What a call makes of a set of held keys. -/
def apply (held : Finset Int) : KeyCall → Finset Int
  | .numbers keys => keys.toFinset
  | .mask cells => Keypad.placesOf cells
  | .press key => insert key held
  | .release key => held.erase key

/-- The same, if a stray call is refused. -/
def track (held : Finset Int) (c : KeyCall) : Finset Int := if c.Stray then held else c.apply held

end KeyCall

namespace Machine

/-- A key that goes down joins the held keys, and one that goes up leaves them. -/
theorem moveKey_of_isKey (m : Machine) {key : Int} (h : IsKey key) (down : Bool) :
    ∃ pad : Keypad, m.moveKey key down = .ok { m with keypad := pad } ∧
      pad.numbers = if down then insert key m.keypad.numbers else m.keypad.numbers.erase key := by
  have hkey := val_ofNat_toNat h
  refine ⟨_, if_pos h, ?_⟩
  cases down with
  | true => rw [Keypad.numbers_set_true, hkey, if_pos rfl]
  | false => rw [Keypad.numbers_set_false, hkey, if_neg Bool.false_ne_true]

theorem moveKey_of_not_isKey (m : Machine) {key : Int} (h : ¬ IsKey key) (down : Bool) :
    m.moveKey key down = .error (.noSuchKey key) :=
  if_neg h

end Machine

namespace Session

open KeyCall

theorem perform_hold (s : Session) {items : List Value} {selection : KeySelection}
    (h : KeySelection.ofValues items = .ok selection) :
    s.perform (.hold (.value (.list items))) =
      s.withKeys (selection.keypad.map fun pad => { s.machine with keypad := pad }) := by
  rw [perform, Machine.hold, KeyInput.read, h]

/-- **A stray call is refused.** -/
theorem perform_of_stray (s : Session) {c : KeyCall} (hfits : c.Fits) (h : c.Stray) :
    s.perform c.command = s.refused (.keys c.complaint) := by
  cases c with
  | numbers keys =>
    obtain ⟨k, hk, hstray⟩ := h
    have hall : ¬ (keys.all fun k => decide (0 ≤ k ∧ k < 16)) = true :=
      fun hall => hstray (of_decide_eq_true (List.all_eq_true.1 hall k hk))
    rw [command, perform_hold s (KeySelection.ofValues_ints hfits), KeySelection.keypad, if_neg hall]
    rfl
  | mask cells =>
    have hshape : ¬ [cells.length] = [16] := fun hsame => h.2 (List.singleton_inj.1 hsame)
    rw [command, perform_hold s (KeySelection.ofValues_bools cells), if_neg h.1,
      KeySelection.keypad, if_neg hshape]
    rfl
  | press key =>
    rw [command, perform, s.machine.moveKey_of_not_isKey h]
    rfl
  | release key =>
    rw [command, perform, s.machine.moveKey_of_not_isKey h]
    rfl

/-- **Any other call is done**, and does to the set of held keys what it says. -/
theorem perform_of_not_stray (s : Session) {c : KeyCall} (hfits : c.Fits) (h : ¬ c.Stray) :
    ∃ pad : Keypad, pad.numbers = c.apply s.machine.keypad.numbers ∧
      s.perform c.command = { session := s.withMachine { s.machine with keypad := pad } } := by
  cases c with
  | numbers keys =>
    have hkeys : ∀ k ∈ keys, IsKey k := fun k hk => Decidable.not_not.1 fun hn => h ⟨k, hk, hn⟩
    have hall : (keys.all fun k => decide (0 ≤ k ∧ k < 16)) = true :=
      List.all_eq_true.2 fun k hk => decide_eq_true (hkeys k hk)
    refine ⟨_, Keypad.numbers_ofKeys hkeys, ?_⟩
    rw [command, perform_hold s (KeySelection.ofValues_ints hfits), KeySelection.keypad, if_pos hall]
    rfl
  | mask cells =>
    rw [command, perform_hold s (KeySelection.ofValues_bools cells)]
    by_cases hempty : cells = []
    · subst hempty
      have hnone : ∀ k ∈ ([] : List Int), IsKey k := by simp
      exact ⟨_, Keypad.numbers_ofKeys hnone, rfl⟩
    · have hlength : cells.length = 16 := Decidable.not_not.1 fun hn => h ⟨hempty, hn⟩
      refine ⟨_, Keypad.numbers_ofFn hlength, ?_⟩
      rw [if_neg hempty, KeySelection.keypad, if_pos (by rw [hlength])]
      rfl
  | press key =>
    obtain ⟨pad, hmoved, hnumbers⟩ := s.machine.moveKey_of_isKey (Decidable.not_not.1 h) true
    exact ⟨pad, hnumbers, by rw [command, perform, hmoved]; rfl⟩
  | release key =>
    obtain ⟨pad, hmoved, hnumbers⟩ := s.machine.moveKey_of_isKey (Decidable.not_not.1 h) false
    exact ⟨pad, hnumbers, by rw [command, perform, hmoved]; rfl⟩

/-- What one call does, stray or not: it is tracked, and only the keypad is another. -/
theorem perform_keyCall (s : Session) {c : KeyCall} (hfits : c.Fits) :
    ∃ pad : Keypad, pad.numbers = c.track s.machine.keypad.numbers ∧
      (s.perform c.command).session = s.withMachine { s.machine with keypad := pad } := by
  by_cases h : c.Stray
  · refine ⟨s.machine.keypad, by rw [track, if_pos h], ?_⟩
    rw [s.perform_of_stray hfits h]
    rfl
  · obtain ⟨pad, hnumbers, hdone⟩ := s.perform_of_not_stray hfits h
    exact ⟨pad, by rw [track, if_neg h, hnumbers], by rw [hdone]⟩

/-- Makes one call after the other, whether they are refused or not. -/
def afterCalls (s : Session) (calls : List KeyCall) : Session :=
  s.performAll (calls.map KeyCall.command)

theorem afterCalls_cons (s : Session) (c : KeyCall) (calls : List KeyCall) :
    s.afterCalls (c :: calls) = (s.perform c.command).session.afterCalls calls := rfl

theorem exists_keypad_afterCalls (s : Session) {calls : List KeyCall} (h : ∀ c ∈ calls, c.Fits) :
    ∃ pad : Keypad, pad.numbers = calls.foldl KeyCall.track s.machine.keypad.numbers ∧
      s.afterCalls calls = s.withMachine { s.machine with keypad := pad } := by
  -- a call leaves another keypad behind, so the next calls start from another session
  induction calls generalizing s with
  | nil => exact ⟨s.machine.keypad, rfl, rfl⟩
  | cons c rest ih =>
    obtain ⟨pad, hnumbers, hcall⟩ := s.perform_keyCall (h c List.mem_cons_self)
    obtain ⟨last, hlast, hrest⟩ := ih (s.withMachine { s.machine with keypad := pad })
      fun d hd => h d (List.mem_cons_of_mem c hd)
    refine ⟨last, ?_, ?_⟩
    · rw [hlast, List.foldl_cons, ← hnumbers]
      rfl
    · rw [afterCalls_cons, hcall, hrest]
      rfl

/-- **The keypad tracks the set of held keys.**  After any calls in any order, stray ones among
them, the held keys are those of the same calls on a set of numbers, and nothing else of the
session is changed.  Whatever is said next is refused if it is stray, with the session as it is,
and done otherwise. -/
theorem keypad_tracks (s : Session) {calls : List KeyCall} (h : ∀ c ∈ calls, c.Fits) :
    (s.afterCalls calls).machine.keypad.numbers =
      calls.foldl KeyCall.track s.machine.keypad.numbers ∧
    s.afterCalls calls =
      s.withMachine { s.machine with keypad := (s.afterCalls calls).machine.keypad } ∧
    ∀ c : KeyCall, c.Fits →
      (c.Stray → (s.afterCalls calls).perform c.command =
        (s.afterCalls calls).refused (.keys c.complaint)) ∧
      (¬ c.Stray → ((s.afterCalls calls).perform c.command).failure = none) := by
  obtain ⟨pad, hnumbers, hafter⟩ := s.exists_keypad_afterCalls h
  refine ⟨?_, ?_, ?_⟩
  · rw [hafter]
    exact hnumbers
  · rw [hafter]
    rfl
  · intro c hfits
    refine ⟨perform_of_stray _ hfits, ?_⟩
    intro hdone
    obtain ⟨last, -, hlast⟩ := perform_of_not_stray (s.afterCalls calls) hfits hdone
    rw [hlast]

/-- A list with a key twice, a key down, one up, and three calls that are refused: a number below
the keys, a mask that is too long, and a list with the number behind the last key. -/
def fumbled : List KeyCall :=
  [.numbers [3, 12, 3], .press 7, .release (-1), .release 12,
    .mask ((List.range 17).map fun i => i % 2 == 0), .numbers [5, 16]]

theorem keypad_tracks_fumbled :
    (∀ c ∈ fumbled, c.Fits) ∧
      ((fresh ⟨0, 0⟩ .modern false).afterCalls fumbled).machine.keypad.numbers = {3, 7} ∧
      (KeyCall.press 16).Stray ∧
      (((fresh ⟨0, 0⟩ .modern false).afterCalls fumbled).perform (.press 16)).failure =
        some (.keys (.noSuchKey 16)) := by
  have hfits : ∀ c ∈ fumbled, c.Fits := by decide
  have hstray : (KeyCall.press 16).Stray := by decide
  obtain ⟨hheld, -, hnext⟩ := keypad_tracks (fresh ⟨0, 0⟩ .modern false) hfits
  obtain ⟨hrefused, -⟩ := hnext (.press 16) trivial
  refine ⟨hfits, ?_, hstray, congrArg Outcome.failure (hrefused hstray)⟩
  rw [hheld]
  decide +kernel

end Session

end ChipEight
