import ChipEight.Proofs.Effects
import Mathlib.Data.List.Nodup
import Mathlib.Data.List.ProdSigma

/-!
# Drawing at once and drawing pixel by pixel

`Machine.draw` asks of every cell of the screen whether the sprite covers it and flips all of them
at once, as `execute_display` does with its arrays of the whole screen.  The machine it stands for
draws pixel by pixel, row after row, and gathers the collision as it goes: `Machine.drawByLoop`.
The two agree wherever the rows of the sprite lie in memory.

The loop visits a list of cells, `Machine.plotted`.  A pixel that falls off the screen has
no cell, and two pixels never share one, so that

* `Screen.get_foldl_mark_of_mem`, `Screen.get_foldl_mark_of_notMem` — flipping the cells one
  after the other flips the cells of the list, and no cell twice;
* `Screen.hit_foldl_mark` — a collision on the way is a cell of the list that was lit at
  the start;
* `Machine.covers_iff_mem_plotted` — the cells of the list are those under the sprite.
-/

namespace ChipEight

/-! ## The loop -/

/-- The screen with one cell flipped. -/
def Screen.flipCell (screen : Screen) (cell : Fin 2048) : Screen :=
  screen.set cell (!screen.get cell)

namespace Machine

/-- Bit `7 - column` of the byte that stands `row` bytes behind the index. -/
def spriteBit (m : Machine) (row column : Nat) : Bool :=
  (m.memory[m.index.toNat + row]?.getD 0).toNat.testBit (7 - column)

/-- Draws one pixel of a sprite whose corner is at `left` and `top`: a pixel that is set and
on the screen raises the flag if its cell is lit, and flips the cell. -/
def plot (left top : Nat) (m : Machine) (row column : Nat) : Machine :=
  if h : m.spriteBit row column = true ∧ left + column < 64 ∧ top + row < 32 then
    let cell : Fin 2048 := ⟨(top + row) * 64 + (left + column), by omega⟩
    let flagged := if m.screen.get cell then m.setRegister 15 1 else m
    { flagged with screen := m.screen.flipCell cell }
  else m

/-- Draws a sprite pixel by pixel.  The corner is read before the flag register is cleared. -/
def drawByLoop (m : Machine) (x y rows : Nibble) : Machine :=
  let left := (m.register x).toNat % 64
  let top := (m.register y).toNat % 32
  let drawn := (List.range rows.val).foldl
    (fun m row => (List.range 8).foldl (fun m column => m.plot left top row column) m)
    (m.setRegister 15 0)
  { drawn with redraw := true, pc := drawn.pc + 2 }

end Machine

/-! ## Marking cells one after the other -/

namespace Screen

theorem get_flipCell_self (screen : Screen) (c : Fin 2048) :
    (screen.flipCell c).get c = !screen.get c := by
  obtain ⟨c, hc⟩ := c
  simp only [flipCell, get_mk, Vector.getElem_set_self]

theorem get_flipCell_of_ne (screen : Screen) {c i : Fin 2048} (h : i ≠ c) :
    (screen.flipCell c).get i = screen.get i := by
  obtain ⟨c, hc⟩ := c
  obtain ⟨i, hi⟩ := i
  have hne : c ≠ i := fun he => h (Fin.ext he.symm)
  simp only [flipCell, get_mk, Vector.getElem_set_ne _ _ hne]

/-- A screen that is drawn on, and whether a lit cell was marked so far. -/
structure Marked where
  screen : Screen
  hit : Bool

/-- Flips a cell and sees whether it was lit. -/
def Marked.mark (p : Marked) (cell : Fin 2048) : Marked :=
  ⟨p.screen.flipCell cell, p.hit || p.screen.get cell⟩

theorem get_foldl_mark_of_notMem {cells : List (Fin 2048)} (p : Marked) {i : Fin 2048}
    (hi : i ∉ cells) : (cells.foldl Marked.mark p).screen.get i = p.screen.get i := by
  induction cells generalizing p with
  | nil => rfl
  | cons c rest ih =>
    rw [List.mem_cons, not_or] at hi
    obtain ⟨hc, hrest⟩ := hi
    rw [List.foldl_cons, ih _ hrest]
    exact get_flipCell_of_ne _ hc

theorem get_foldl_mark_of_mem {cells : List (Fin 2048)} (h : cells.Nodup) (p : Marked)
    {i : Fin 2048} (hi : i ∈ cells) :
    (cells.foldl Marked.mark p).screen.get i = !p.screen.get i := by
  induction cells generalizing p with
  | nil => cases hi
  | cons c rest ih =>
    obtain ⟨hc, hrest⟩ := List.nodup_cons.1 h
    rw [List.foldl_cons]
    rcases List.mem_cons.1 hi with rfl | hi'
    · rw [get_foldl_mark_of_notMem _ hc]
      exact get_flipCell_self _ _
    · have hne : i ≠ c := ne_of_mem_of_not_mem hi' hc
      rw [ih hrest _ hi']
      exact congrArg not (get_flipCell_of_ne _ hne)

theorem hit_mark (p : Marked) (c : Fin 2048) :
    (p.mark c).hit = true ↔ p.hit = true ∨ p.screen.get c = true := by
  simp [Marked.mark]

theorem hit_foldl_mark {cells : List (Fin 2048)} (h : cells.Nodup) (p : Marked) :
    (cells.foldl Marked.mark p).hit = true ↔
      p.hit = true ∨ ∃ c ∈ cells, p.screen.get c = true := by
  induction cells generalizing p with
  | nil => simp
  | cons c rest ih =>
    obtain ⟨hc, hrest⟩ := List.nodup_cons.1 h
    -- the cells that are still to come are as they were
    have hsame : (∃ i ∈ rest, (p.mark c).screen.get i = true) ↔
        ∃ i ∈ rest, p.screen.get i = true := by
      refine exists_congr fun i => and_congr_right fun hi => ?_
      have hne : i ≠ c := ne_of_mem_of_not_mem hi hc
      rw [Marked.mark, get_flipCell_of_ne _ hne]
    rw [List.foldl_cons, ih hrest, hsame, hit_mark, or_assoc, List.exists_mem_cons_iff]

end Screen

namespace Machine

/-! ## The loop marks cells -/

/-- The machine with a marked screen, and the flag that goes with it. -/
def withMarked (m : Machine) (p : Screen.Marked) : Machine :=
  { m with screen := p.screen }.setRegister 15 (Arithmetic.bit p.hit)

/-- The cell a pixel of a sprite flips, if it flips one. -/
def target? (m : Machine) (s : Sprite) (q : Nat × Nat) : Option (Fin 2048) :=
  if h : m.spriteBit q.1 q.2 = true ∧ s.left + q.2 < 64 ∧ s.top + q.1 < 32 then
    some ⟨(s.top + q.1) * 64 + (s.left + q.2), by omega⟩
  else none

theorem target?_eq_some_iff {m : Machine} {s : Sprite} {q : Nat × Nat} {c : Fin 2048} :
    m.target? s q = some c ↔
      m.spriteBit q.1 q.2 = true ∧ s.left + q.2 < 64 ∧ s.top + q.1 < 32 ∧
        c.val = (s.top + q.1) * 64 + (s.left + q.2) := by
  unfold target?
  split
  · rename_i h
    simp only [Option.some.injEq, ← Fin.val_inj]
    tauto
  · rename_i h
    simp only [reduceCtorEq, false_iff]
    tauto

/-- Marking a cell keeps the flag and the screen together. -/
theorem withMarked_mark (m : Machine) (p : Screen.Marked) (c : Fin 2048) :
    { (if p.screen.get c then (m.withMarked p).setRegister 15 1 else m.withMarked p) with
      screen := p.screen.flipCell c } = m.withMarked (p.mark c) := by
  cases hlit : p.screen.get c <;>
    simp [withMarked, setRegister, Screen.Marked.mark, hlit, Arithmetic.bit]

theorem plot_withMarked (m : Machine) (s : Sprite) (p : Screen.Marked) (q : Nat × Nat) :
    (m.withMarked p).plot s.left s.top q.1 q.2 =
      match m.target? s q with
      | some c => m.withMarked (p.mark c)
      | none => m.withMarked p := by
  have hbit : (m.withMarked p).spriteBit q.1 q.2 = m.spriteBit q.1 q.2 := rfl
  by_cases h : m.spriteBit q.1 q.2 = true ∧ s.left + q.2 < 64 ∧ s.top + q.1 < 32
  · rw [target?, dif_pos h, plot, dif_pos (hbit ▸ h)]
    exact withMarked_mark m p _
  · rw [target?, dif_neg h, plot, dif_neg (hbit ▸ h)]

/-- The pixels of a sprite, row after row. -/
def pixels (rows : Nat) : List (Nat × Nat) := List.range rows ×ˢ List.range 8

theorem nodup_pixels (rows : Nat) : (pixels rows).Nodup :=
  List.nodup_range.product List.nodup_range

theorem mem_pixels {rows : Nat} {q : Nat × Nat} : q ∈ pixels rows ↔ q.1 < rows ∧ q.2 < 8 := by
  obtain ⟨row, column⟩ := q
  simp [pixels]

/-- Two loops inside each other are one over the pixels. -/
theorem foldl_pixels {α : Type} (f : α → Nat → Nat → α) (a : α) (rows : Nat) :
    (List.range rows).foldl
        (fun a row => (List.range 8).foldl (fun a column => f a row column) a) a =
      (pixels rows).foldl (fun a q => f a q.1 q.2) a := by
  have h : pixels rows =
      (List.range rows).flatMap fun row => (List.range 8).map (Prod.mk row) := rfl
  rw [h, List.foldl_flatMap]
  simp only [List.foldl_map]

theorem foldl_plot (m : Machine) (s : Sprite) (qs : List (Nat × Nat)) (p : Screen.Marked) :
    qs.foldl (fun m q => m.plot s.left s.top q.1 q.2) (m.withMarked p) =
      m.withMarked ((qs.filterMap (m.target? s)).foldl Screen.Marked.mark p) := by
  induction qs generalizing p with
  | nil => rfl
  | cons q rest ih =>
    rw [List.foldl_cons, plot_withMarked]
    cases h : m.target? s q with
    | none => rw [List.filterMap_cons_none h, ih]
    | some c => rw [List.filterMap_cons_some h, List.foldl_cons, ih]

/-- The cells the loop flips, in its order. -/
def plotted (m : Machine) (s : Sprite) : List (Fin 2048) :=
  (pixels s.rows).filterMap (m.target? s)

/-- What the loop makes of the screen. -/
def marked (m : Machine) (s : Sprite) : Screen.Marked :=
  (m.plotted s).foldl Screen.Marked.mark ⟨m.screen, false⟩

theorem drawByLoop_eq (m : Machine) (x y n : Nibble) :
    m.drawByLoop x y n =
      { m.withMarked (m.marked (m.sprite x y n)) with redraw := true, pc := m.pc + 2 } := by
  have hstart : m.setRegister 15 0 = m.withMarked ⟨m.screen, false⟩ := rfl
  have hloop := foldl_plot m (m.sprite x y n) (pixels n.val) ⟨m.screen, false⟩
  simp only [drawByLoop, foldl_pixels, hstart]
  exact congrArg (fun d => { d with redraw := true, pc := d.pc + 2 }) hloop

/-! ## The cells under the sprite -/

/-- No two pixels flip the same cell. -/
theorem nodup_plotted (m : Machine) (s : Sprite) : (m.plotted s).Nodup := by
  refine (nodup_pixels s.rows).filterMap fun q q' c hq hq' => ?_
  obtain ⟨-, hcolumn, -, hc⟩ := target?_eq_some_iff.1 hq
  obtain ⟨-, hcolumn', -, hc'⟩ := target?_eq_some_iff.1 hq'
  exact Prod.ext (by omega) (by omega)

theorem mem_plotted {m : Machine} {s : Sprite} {c : Fin 2048} :
    c ∈ m.plotted s ↔
      ∃ row < s.rows, ∃ column < 8, m.spriteBit row column = true ∧ s.left + column < 64 ∧
        s.top + row < 32 ∧ c.val = (s.top + row) * 64 + (s.left + column) := by
  simp only [plotted, List.mem_filterMap, mem_pixels, target?_eq_some_iff, Prod.exists]
  constructor
  · rintro ⟨row, column, ⟨hr, hc⟩, h⟩
    exact ⟨row, hr, column, hc, h⟩
  · rintro ⟨row, hr, column, hc, h⟩
    exact ⟨row, column, ⟨hr, hc⟩, h⟩

theorem covers_iff (s : Sprite) (memory : Memory) (cell : Nat) :
    s.covers memory cell = true ↔
      (s.left ≤ cell % 64 ∧ cell % 64 < s.left + 8 ∧ s.top ≤ cell / 64 ∧
        cell / 64 < s.top + s.rows) ∧
      (memory.read (s.base + (cell / 64 - s.top))).toNat.testBit
        (7 - (cell % 64 - s.left)) = true := by
  simp [Sprite.covers, Sprite.spans]

/-- `m.Pixel x y n c`: a set bit of the sprite falls on the cell `c` of the screen.  A row past
the end of memory is the last byte there is. -/
def Pixel (m : Machine) (x y n : Nibble) (c : Fin 2048) : Prop :=
  ∃ row < n.val, ∃ column < 8,
    (m.memory.read (m.index.toNat + row)).toNat.testBit (7 - column) = true ∧
      (m.register x).toNat % 64 + column < 64 ∧ (m.register y).toNat % 32 + row < 32 ∧
      c.val = ((m.register y).toNat % 32 + row) * 64 + ((m.register x).toNat % 64 + column)

/-- The cells under the sprite are those its set bits fall on. -/
theorem covers_iff_pixel (m : Machine) (x y n : Nibble) (c : Fin 2048) :
    (m.sprite x y n).covers m.memory c.val = true ↔ m.Pixel x y n c := by
  have hc := c.isLt
  rw [covers_iff]
  simp only [sprite]
  constructor
  · rintro ⟨⟨h1, h2, h3, h4⟩, hb⟩
    exact ⟨c.val / 64 - (m.register y).toNat % 32, by omega,
      c.val % 64 - (m.register x).toNat % 64, by omega, hb, by omega, by omega, by omega⟩
  · rintro ⟨row, hr, column, hcol, hb, h1, h2, h3⟩
    have hrow : c.val / 64 = (m.register y).toNat % 32 + row := by omega
    have hcolumn : c.val % 64 = (m.register x).toNat % 64 + column := by omega
    rw [hrow, hcolumn, Nat.add_sub_cancel_left, Nat.add_sub_cancel_left]
    exact ⟨by omega, hb⟩

/-- A bit of the sprite, read the way memory is read elsewhere. -/
theorem spriteBit_eq {m : Machine} {row : Nat} (h : m.index.toNat + row < 4096) (column : Nat) :
    m.spriteBit row column =
      (m.memory.read (m.index.toNat + row)).toNat.testBit (7 - column) := by
  have hle : m.index.toNat + row ≤ 4095 := by omega
  rw [spriteBit, Vector.getElem?_eq_getElem h, Option.getD_some, Memory.read]
  simp only [Nat.min_eq_left hle]

section Agreement

variable {m : Machine} {x y n : Nibble}
variable (h : n.val = 0 ∨ m.index.toNat + n.val - 1 ≤ 0xFFF)
include h

theorem covers_iff_mem_plotted (c : Fin 2048) :
    (m.sprite x y n).covers m.memory c.val = true ↔ c ∈ m.plotted (m.sprite x y n) := by
  rw [covers_iff_pixel, mem_plotted]
  refine exists_congr fun row => and_congr_right fun hr => ?_
  refine exists_congr fun column => and_congr_right fun _ => ?_
  rw [sprite, spriteBit_eq (by omega)]

theorem flip_eq_marked :
    (m.sprite x y n).flip m.memory m.screen = (m.marked (m.sprite x y n)).screen := by
  refine Vector.ext fun i hi => ?_
  have hcov := covers_iff_mem_plotted (x := x) (y := y) h ⟨i, hi⟩
  rw [Sprite.getElem_flip]
  by_cases hmem : (⟨i, hi⟩ : Fin 2048) ∈ m.plotted (m.sprite x y n)
  · rw [hcov.2 hmem, Bool.xor_true]
    exact (Screen.get_foldl_mark_of_mem (nodup_plotted ..) ⟨m.screen, false⟩ hmem).symm
  · rw [Bool.eq_false_iff.2 fun hc => hmem (hcov.1 hc), Bool.xor_false]
    exact (Screen.get_foldl_mark_of_notMem ⟨m.screen, false⟩ hmem).symm

theorem hits_eq_marked :
    (m.sprite x y n).hits m.memory m.screen = (m.marked (m.sprite x y n)).hit := by
  rw [Bool.eq_iff_iff, Sprite.hits_eq_true_iff, marked, Screen.hit_foldl_mark (nodup_plotted ..)]
  simp only [Bool.false_eq_true, false_or]
  constructor
  · rintro ⟨i, hi, hlit, hc⟩
    exact ⟨⟨i, hi⟩, (covers_iff_mem_plotted h ⟨i, hi⟩).1 hc, hlit⟩
  · rintro ⟨c, hc, hlit⟩
    exact ⟨c.val, c.isLt, hlit, (covers_iff_mem_plotted h c).2 hc⟩

/-- Drawing at once is drawing pixel by pixel. -/
theorem draw_eq_drawByLoop : m.draw x y n = m.drawByLoop x y n := by
  have hfault : decide (0 < n.val ∧ 4096 < m.index.toNat + n.val) = false := by
    rw [decide_eq_false_iff_not]
    omega
  rw [drawByLoop_eq, draw, hfault]
  simp only [stopIf, next, advance, Bool.and_false, Bool.false_eq_true, if_false,
    flip_eq_marked h, hits_eq_marked h]
  rfl

end Agreement

/-! ## What drawing changes -/

/-- The cells that change are those of the list. -/
theorem screen_drawByLoop_ne_iff (m : Machine) (x y n : Nibble) (i : Fin 2048) :
    (m.drawByLoop x y n).screen.get i ≠ m.screen.get i ↔ i ∈ m.plotted (m.sprite x y n) := by
  have hscreen : (m.drawByLoop x y n).screen = (m.marked (m.sprite x y n)).screen := by
    rw [drawByLoop_eq]
    rfl
  rw [hscreen, marked]
  by_cases hi : i ∈ m.plotted (m.sprite x y n)
  · rw [Screen.get_foldl_mark_of_mem (nodup_plotted ..) _ hi]
    simp [hi]
  · rw [Screen.get_foldl_mark_of_notMem _ hi]
    simp [hi]

/-- Among the registers only the flag register is written. -/
theorem register_drawByLoop_of_ne (m : Machine) (x y n : Nibble) {r : Nibble} (hr : r ≠ 15) :
    (m.drawByLoop x y n).register r = m.register r := by
  rw [drawByLoop_eq]
  exact (register_setRegister _ 15 r _).trans (if_neg hr.symm)

theorem execute_draw {word : Int} (m : Machine) {x y n : Nibble}
    (hword : Fields.lowBits word = 0xD000 + 256 * x.val + 16 * y.val + n.val) :
    m.execute word = m.draw x y n := by
  have hp : (Instruction.draw x y n).Pattern (Fields.lowBits word) :=
    Fields.fields_of_nibbles n.isLt hword
  exact execute_of_pattern hp

/-- **A sprite is drawn as if it were drawn pixel by pixel.**  The cells that change are those
under the set bits of the sprite that fall on the screen, where the corner wraps around but
nothing else does; besides the screen only the flag register, the note for the host and the
program counter change. -/
theorem execute_draw_eq_drawByLoop (m : Machine) (x y n : Nibble) {word : Int}
    (hword : Fields.lowBits word = 0xD000 + 256 * x.val + 16 * y.val + n.val)
    (hrows : n.val = 0 ∨ m.index.toNat + n.val - 1 ≤ 0xFFF) :
    m.execute word = m.drawByLoop x y n ∧
    (∀ i : Fin 2048, (m.execute word).screen.get i ≠ m.screen.get i ↔
      ∃ row < n.val, ∃ column < 8, m.spriteBit row column = true ∧
        (m.register x).toNat % 64 + column < 64 ∧ (m.register y).toNat % 32 + row < 32 ∧
        i.val = ((m.register y).toNat % 32 + row) * 64 +
          ((m.register x).toNat % 64 + column)) ∧
    (∀ r : Nibble, r ≠ 15 → (m.execute word).register r = m.register r) ∧
    m.execute word =
      { m with
        screen := (m.execute word).screen
        registers := (m.execute word).registers
        redraw := true
        pc := m.pc + 2 } := by
  have hloop : m.execute word = m.drawByLoop x y n := by
    rw [execute_draw m hword]
    exact draw_eq_drawByLoop hrows
  rw [hloop]
  refine ⟨rfl, fun i => ?_, fun r hr => register_drawByLoop_of_ne m x y n hr, ?_⟩
  · rw [screen_drawByLoop_ne_iff]
    exact mem_plotted
  · rw [drawByLoop_eq]
    rfl

/-- A sprite at the lower right corner, placed by the flag register in both directions. -/
theorem execute_draw_eq_drawByLoop_corner :
    let m := (Machine.fresh .legacy ⟨0, 0⟩).setRegister 15 62
    Fields.lowBits 0xDFF5 = 0xD000 + 256 * (15 : Nibble).val + 16 * (15 : Nibble).val +
        (5 : Nibble).val ∧
      m.index.toNat + (5 : Nibble).val - 1 ≤ 0xFFF ∧ m.execute 0xDFF5 = m.drawByLoop 15 15 5 := by
  intro m
  have hword : Fields.lowBits 0xDFF5 = 0xD000 + 256 * (15 : Nibble).val +
      16 * (15 : Nibble).val + (5 : Nibble).val := by decide
  have hrows : m.index.toNat + (5 : Nibble).val - 1 ≤ 0xFFF := by decide
  exact ⟨hword, hrows, (execute_draw_eq_drawByLoop m 15 15 5 hword (Or.inr hrows)).1⟩

end Machine

end ChipEight
