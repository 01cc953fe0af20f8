import ChipEight.Proofs.Bytes
import ChipEight.Proofs.LastWriter
import ChipEight.Proofs.Operations

/-!
# Programs over programs

`load_program` copies a program over what the memory holds and does not clear what lies behind its
end, so after
some loads the memory may hold the beginning of one program, the middle of an older one and the end
of one that is older still.  Others were refused in between, for their length or for a number that
is no byte.  What each address holds in the end is said here without following the loads one by one.

* `Listing` — an image as a host writes it down, and `Listing.Denotes` — the bytes it stands for.
* `Machine.loadFrom_of_denotes` — which images are taken.
* `Machine.loadFrom_of_stray` — a list with a number that is no byte is refused for its first one.
* `Machine.loadAll` — loads in a row, refused or not.
* `Machine.loads_overlay` — every address holds the byte of the last image that reached it.
-/

namespace ChipEight

/-! ## Images as they are written down -/

/-- How a host writes an image down: as bytes, or as a list of whole numbers. -/
inductive Listing
  | bytes (image : Image)
  | numbers (ns : List Int)

namespace Listing

/-- The program that is handed over. -/
def program : Listing → Program
  | .bytes image => .bytes image
  | .numbers ns => .elements (ns.map .int)

/-- `l.Denotes image`: what is written down are the bytes of the image, or their numbers. -/
def Denotes : Listing → Image → Prop
  | .bytes b, image => b = image
  | .numbers ns, image => ns = image.map fun b => (b.toNat : Int)

/-- `l.Leaves i b`: the image is one that fits into memory, and its byte number `i` is `b`. -/
def Leaves (l : Listing) (i : Nat) (b : UInt8) : Prop :=
  ∃ image, l.Denotes image ∧ image.length ≤ 3584 ∧ image[i]? = some b

end Listing

/-! ## One load -/

/-- A list of numbers is flat, so it is read as one row of bytes. -/
theorem Listing.image_numbers (ns : List Int) :
    (Listing.numbers ns).program.image =
      (bytesOf (ns.map .int)).mapError fun e => .notAByte e := by
  have hflat : ∀ v ∈ ns.map Value.int, v.isLeaf = true := by
    intro v hv
    obtain ⟨n, -, rfl⟩ := List.mem_map.1 hv
    rfl
  have hshape := Value.shape_flat _ hflat
  have hleaves := Value.allLeaves_flat _ hflat
  simp only [Listing.program, Program.image, Program.bytesOfList, hshape, hleaves]
  cases bytesOf (ns.map .int) with
  | error e => rfl
  | ok image => rfl

theorem Listing.image_of_denotes {l : Listing} {image : Image} (h : l.Denotes image) :
    l.program.image = .ok image := by
  cases l with
  | bytes b =>
    obtain rfl : b = image := h
    rfl
  | numbers ns =>
    obtain rfl : ns = image.map fun b => (b.toNat : Int) := h
    have hread : bytesOf ((image.map fun b => (b.toNat : Int)).map .int) = .ok image := by
      rw [List.map_map]
      exact bytesOf_numbers image
    rw [image_numbers, hread]
    rfl

/-- A listing stands for one image at most. -/
theorem Listing.Denotes.unique {l : Listing} {a b : Image} (ha : l.Denotes a) (hb : l.Denotes b) :
    a = b := by
  have hread := (image_of_denotes ha).symm.trans (image_of_denotes hb)
  exact Except.ok.inj hread

/-- A list with a number that is no byte leaves nothing behind. -/
theorem Listing.not_leaves_of_stray {ns : List Int} (h : ∃ n ∈ ns, ¬ IsByte n) {i : Nat}
    {b : UInt8} : ¬ (Listing.numbers ns).Leaves i b := by
  rintro ⟨image, himage, -⟩
  obtain ⟨n, hn, hstray⟩ := h
  obtain rfl : ns = image.map fun b => (b.toNat : Int) := himage
  obtain ⟨c, -, rfl⟩ := List.mem_map.1 hn
  exact hstray (isByte_toNat c)

/-- What stands for no image is a list with a number that is no byte. -/
theorem Listing.denotes_or_stray (l : Listing) :
    (∃ image, l.Denotes image) ∨ ∃ ns, l = .numbers ns ∧ ∃ n ∈ ns, ¬ IsByte n := by
  cases l with
  | bytes b => exact Or.inl ⟨b, rfl⟩
  | numbers ns =>
    by_cases h : ∃ n ∈ ns, ¬ IsByte n
    · exact Or.inr ⟨ns, rfl, h⟩
    · refine Or.inl ⟨ns.map fun n => UInt8.ofNat n.toNat, ?_⟩
      have hback : ∀ n ∈ ns, ((UInt8.ofNat n.toNat).toNat : Int) = n := by
        intro n hn
        exact toNat_of_isByte (Decidable.byContradiction fun hstray => h ⟨n, hn, hstray⟩)
      simp only [Denotes, List.map_map]
      exact ((List.map_congr_left hback).trans (List.map_id ns)).symm

namespace Machine

/-- **An image is taken if it fits**, and otherwise refused for its length. -/
theorem loadFrom_of_denotes (m : Machine) {l : Listing} {image : Image} (h : l.Denotes image) :
    m.loadFrom l.program =
      if image.length ≤ 3584 then .ok (m.withImage image, image)
      else .error (.tooLarge { size := image.length, limit := 3584 }) := by
  simp only [loadFrom, Listing.image_of_denotes h, load]
  by_cases hfit : image.length ≤ 3584
  · have hcap : image.length ≤ Layout.imageCapacity := hfit
    simp only [if_pos hcap, if_pos hfit]
  · have hcap : ¬ image.length ≤ Layout.imageCapacity := hfit
    simp only [if_neg hcap, if_neg hfit]

/-- **A list with a number that is no byte is refused** for the first one, however long it is. -/
theorem loadFrom_of_stray (m : Machine) {ns : List Int} (h : ∃ n ∈ ns, ¬ IsByte n) :
    ∃ front n rest, ns = front ++ n :: rest ∧ (∀ b ∈ front, IsByte b) ∧ ¬ IsByte n ∧
      m.loadFrom (Listing.numbers ns).program = .error (.notAByte (strayError n)) := by
  obtain ⟨front, n, rest, hsplit, hfront, hn, hread⟩ := bytesOf_stray h
  refine ⟨front, n, rest, hsplit, hfront, hn, ?_⟩
  rw [loadFrom, Listing.image_numbers, hread]
  rfl

/-- What a host has after a load: the machine with the program, or the one it had if the program
was refused. -/
def afterLoad (m : Machine) (p : Program) : Machine :=
  match m.loadFrom p with
  | .ok (loaded, _) => loaded
  | .error _ => m

theorem afterLoad_of_error {m : Machine} {p : Program} {e : ImageError}
    (h : m.loadFrom p = .error e) : m.afterLoad p = m := by
  rw [afterLoad, h]

/-- A load takes an image over, or it leaves no byte anywhere and everything as it was. -/
theorem afterLoad_cases (m : Machine) (l : Listing) :
    (∃ image, l.Denotes image ∧ image.length ≤ 3584 ∧
      m.afterLoad l.program = m.withImage image) ∨
    ((∀ i b, ¬ l.Leaves i b) ∧ m.afterLoad l.program = m) := by
  rcases l.denotes_or_stray with ⟨image, himage⟩ | ⟨ns, rfl, hstray⟩
  · have hload := m.loadFrom_of_denotes himage
    by_cases hfit : image.length ≤ 3584
    · rw [if_pos hfit] at hload
      exact Or.inl ⟨image, himage, hfit, by rw [afterLoad, hload]⟩
    · rw [if_neg hfit] at hload
      refine Or.inr ⟨?_, afterLoad_of_error hload⟩
      rintro i b ⟨image', himage', hfit', -⟩
      rw [himage.unique himage'] at hfit
      exact hfit hfit'
  · obtain ⟨front, n, rest, -, -, -, hload⟩ := m.loadFrom_of_stray hstray
    exact Or.inr ⟨fun i b => Listing.not_leaves_of_stray hstray, afterLoad_of_error hload⟩

section

variable {m : Machine} {l : Listing} {a : Address}

/-- **A load leaves its bytes where they belong.** -/
theorem memory_afterLoad_of_leaves {i : Nat} {b : UInt8} (ha : a.val = 0x200 + i)
    (h : l.Leaves i b) : (m.afterLoad l.program).memory.get a = b := by
  obtain ⟨a, halt⟩ := a
  have ha : a = 0x200 + i := ha
  rcases m.afterLoad_cases l with ⟨image, himage, -, heq⟩ | ⟨hnone, -⟩
  · obtain ⟨image', himage', -, hbyte⟩ := h
    obtain rfl := himage.unique himage'
    have hlt : i < image.length := (List.getElem?_eq_some_iff.1 hbyte).1
    have hput := m.memory.getElem_writeAll_of_inside image halt (c := 0x200) (by omega) (by omega)
    have hsub : a - 0x200 = i := by omega
    rw [hsub, hbyte] at hput
    rw [heq]
    exact (Option.some.inj hput).symm
  · exact absurd h (hnone i b)

/-- **A load leaves the other bytes alone.** -/
theorem memory_afterLoad_of_not_leaves (h : ∀ i b, a.val = 0x200 + i → ¬ l.Leaves i b) :
    (m.afterLoad l.program).memory.get a = m.memory.get a := by
  obtain ⟨a, halt⟩ := a
  rcases m.afterLoad_cases l with ⟨image, himage, hfit, heq⟩ | ⟨-, heq⟩
  · rw [heq]
    refine m.memory.getElem_writeAll_of_outside halt ?_
    refine Decidable.byContradiction ?_
    intro hin
    have hstart : Layout.programStart = 0x200 := rfl
    have hlt : a - 0x200 < image.length := by omega
    have hat : a = 0x200 + (a - 0x200) := by omega
    exact h (a - 0x200) image[a - 0x200] hat
      ⟨image, himage, hfit, List.getElem?_eq_getElem hlt⟩
  · rw [heq]

/-- A load changes the memory only. -/
theorem afterLoad_eq (m : Machine) (l : Listing) :
    m.afterLoad l.program = { m with memory := (m.afterLoad l.program).memory } := by
  rcases m.afterLoad_cases l with ⟨image, -, -, heq⟩ | ⟨-, heq⟩
  · rw [heq]
    rfl
  · rw [heq]

end

/-! ## Loads in a row -/

/-- What a host has after some loads in a row, whether they were refused or not. -/
def loadAll (m : Machine) : List Listing → Machine
  | [] => m
  | l :: rest => (m.afterLoad l.program).loadAll rest

/-- A session goes through the same machines. -/
theorem machine_performAll_load (s : Session) (ls : List Listing) :
    (s.performAll (ls.map fun l => .load l.program)).machine = s.machine.loadAll ls := by
  induction ls generalizing s with
  | nil => rfl
  | cons l rest ih =>
    have hstep : (s.perform (.load l.program)).session.machine =
        s.machine.afterLoad l.program := by
      simp only [Session.perform, afterLoad]
      cases s.machine.loadFrom l.program <;> rfl
    rw [List.map_cons, Session.performAll, ih, hstep, loadAll]

/-- Loads change the memory only. -/
theorem loadAll_eq (m : Machine) (ls : List Listing) :
    m.loadAll ls = { m with memory := (m.loadAll ls).memory } := by
  induction ls generalizing m with
  | nil => rfl
  | cons l rest ih =>
    rw [loadAll, ih, afterLoad_eq]

/-- Where no load leaves a byte, the old one stays. -/
theorem memory_loadAll_of_not_leaves {m : Machine} {ls : List Listing} {a : Address}
    (h : ∀ l ∈ ls, ∀ i b, a.val = 0x200 + i → ¬ l.Leaves i b) :
    (m.loadAll ls).memory.get a = m.memory.get a := by
  induction ls generalizing m with
  | nil => rfl
  | cons l rest ih =>
    rw [loadAll, ih fun l' hl' => h l' (List.mem_cons_of_mem l hl')]
    exact memory_afterLoad_of_not_leaves (h l List.mem_cons_self)

theorem loadAll_append (m : Machine) (before later : List Listing) :
    m.loadAll (before ++ later) = (m.loadAll before).loadAll later := by
  induction before generalizing m with
  | nil => rfl
  | cons l rest ih => rw [List.cons_append, loadAll, loadAll, ih]

/-- **The last load that leaves a byte at an address has the last word.** -/
theorem memory_loadAll_of_leaves {m : Machine} {before later : List Listing} {l : Listing}
    {a : Address} {i : Nat} {b : UInt8} (ha : a.val = 0x200 + i) (h : l.Leaves i b)
    (hlater : ∀ l' ∈ later, ∀ c, ¬ l'.Leaves i c) :
    (m.loadAll (before ++ l :: later)).memory.get a = b := by
  have hkept : ∀ l' ∈ later, ∀ j c, a.val = 0x200 + j → ¬ l'.Leaves j c := by
    intro l' hl' j c hj
    obtain rfl : j = i := by omega
    exact hlater l' hl' c
  rw [loadAll_append, loadAll, memory_loadAll_of_not_leaves hkept]
  exact memory_afterLoad_of_leaves ha h

/-- **What some loads leave behind.**  An image is taken exactly if it fits, and one that does not
is refused for its length; a list with a number that is no byte is refused for the first such
number, whatever its length; what is refused changes nothing.  After any loads in a row, refused or
not, number `i` of the bytes behind the start of programs is that of the last image that was taken
and has one, or the one that was there before if there is none; the memory in front of the programs
is as it was, and so is everything else.  This is what a session has that is asked for these
loads. -/
theorem loads_overlay (m : Machine) (ls : List Listing) :
    (∀ (l : Listing) image, l.Denotes image →
      m.loadFrom l.program =
        if image.length ≤ 3584 then .ok (m.withImage image, image)
        else .error (.tooLarge { size := image.length, limit := 3584 })) ∧
    (∀ ns, (∃ n ∈ ns, ¬ IsByte n) →
      ∃ front n rest, ns = front ++ n :: rest ∧ (∀ b ∈ front, IsByte b) ∧ ¬ IsByte n ∧
        m.loadFrom (Listing.numbers ns).program = .error (.notAByte (strayError n))) ∧
    (∀ p e, m.loadFrom p = .error e → m.afterLoad p = m) ∧
    (∀ (a : Address) (i : Nat), a.val = 0x200 + i →
      ((∀ l ∈ ls, ∀ b, ¬ l.Leaves i b) → (m.loadAll ls).memory.get a = m.memory.get a) ∧
      (∀ before l later b, ls = before ++ l :: later → l.Leaves i b →
        (∀ l' ∈ later, ∀ c, ¬ l'.Leaves i c) → (m.loadAll ls).memory.get a = b)) ∧
    (∀ a : Address, a.val < 0x200 → (m.loadAll ls).memory.get a = m.memory.get a) ∧
    m.loadAll ls = { m with memory := (m.loadAll ls).memory } ∧
    (∀ s : Session, s.machine = m →
      (s.performAll (ls.map fun l => .load l.program)).machine = m.loadAll ls) := by
  refine ⟨fun l image => m.loadFrom_of_denotes, fun ns => m.loadFrom_of_stray,
    fun p e => afterLoad_of_error, ?_, ?_, m.loadAll_eq ls, ?_⟩
  · intro a i ha
    constructor
    · intro hnone
      refine memory_loadAll_of_not_leaves ?_
      intro l hl j b hj
      obtain rfl : j = i := by omega
      exact hnone l hl b
    · rintro before l later b rfl hleaves hlater
      exact memory_loadAll_of_leaves ha hleaves hlater
  · intro a ha
    refine memory_loadAll_of_not_leaves ?_
    intro l _ i b hi
    omega
  · rintro s rfl
    exact machine_performAll_load s ls

/-- Programs of several lengths over each other, one of them with a number that is no byte. -/
def layers : List Listing :=
  [.numbers [1, 2, 3], .bytes [4], .numbers [7, 256, -1], .bytes []]

/-- The second program lies over the first byte of the first one; the others leave nothing. -/
theorem loads_overlay_layers :
    ((fresh .legacy ⟨0, 0⟩).loadAll layers).memory.get 0x200 = 4 ∧
      ((fresh .legacy ⟨0, 0⟩).loadAll layers).memory.get 0x202 = 3 ∧
      ((fresh .legacy ⟨0, 0⟩).loadAll layers).memory.get 0x000 = 0xF0 := by
  obtain ⟨-, -, -, hover, hfront, -, -⟩ := loads_overlay (fresh .legacy ⟨0, 0⟩) layers
  have hstray : ∀ i b, ¬ (Listing.numbers [7, 256, -1]).Leaves i b :=
    fun i b => Listing.not_leaves_of_stray ⟨256, by decide, by decide⟩
  have hempty : ∀ i b, ¬ (Listing.bytes []).Leaves i b := by
    rintro i b ⟨_, rfl, -, hbyte⟩
    cases hbyte
  have hshort : ∀ b, ¬ (Listing.bytes [4]).Leaves 2 b := by
    rintro b ⟨_, rfl, -, hbyte⟩
    cases hbyte
  refine ⟨?_, ?_, ?_⟩
  · refine (hover 0x200 0 rfl).2 [.numbers [1, 2, 3]] (.bytes [4])
      [.numbers [7, 256, -1], .bytes []] 4 rfl ⟨[4], rfl, by decide, rfl⟩ ?_
    simp only [List.forall_mem_cons]
    exact ⟨hstray 0, hempty 0, by simp⟩
  · refine (hover 0x202 2 rfl).2 [] (.numbers [1, 2, 3])
      [.bytes [4], .numbers [7, 256, -1], .bytes []] 3 rfl ⟨[1, 2, 3], by rfl, by decide, rfl⟩ ?_
    simp only [List.forall_mem_cons]
    exact ⟨hshort, hstray 2, hempty 2, by simp⟩
  · rw [hfront 0x000 (by decide)]
    decide +kernel

end Machine

end ChipEight
