import ChipEight.Machine.Fault

/-!
# Drawing

A sprite is eight cells wide and up to fifteen rows tall.  Its origin wraps around
the screen; what reaches over the right or bottom edge is cut off.  Drawing flips
the cells under the sprite's set bits, and the flag register says whether a lit
cell went dark.
-/

namespace ChipEight

/-- Where a sprite is drawn, how tall it is and where its rows are. -/
structure Sprite where
  left : Nat
  top : Nat
  rows : Nat
  base : Nat
deriving DecidableEq, Repr

namespace Sprite

/-- Whether a cell lies in the rectangle of the sprite: `in_sprite` in `execute_display`. -/
def spans (s : Sprite) (column row : Nat) : Bool :=
  decide (s.left ≤ column ∧ column < s.left + 8 ∧ s.top ≤ row ∧ row < s.top + s.rows)

/-- Whether a cell of the screen lies under a set bit of the sprite. -/
def covers (s : Sprite) (memory : Memory) (cell : Nat) : Bool :=
  let column := cell % 64
  let row := cell / 64
  s.spans column row &&
    (memory.read (s.base + (row - s.top))).toNat.testBit (7 - (column - s.left))

/-- The screen with the cells under the sprite flipped. -/
def flip (s : Sprite) (memory : Memory) (screen : Screen) : Screen :=
  Vector.ofFn fun cell => xor (screen.get cell) (s.covers memory cell.val)

/-- Whether a lit cell lies under the sprite. -/
def hits (s : Sprite) (memory : Memory) (screen : Screen) : Bool :=
  (List.finRange 2048).any fun cell => screen.get cell && s.covers memory cell.val

@[simp] theorem getElem_flip (s : Sprite) (memory : Memory) (screen : Screen) (i : Nat)
    (h : i < 2048) : (s.flip memory screen)[i] = xor screen[i] (s.covers memory i) := by
  simp [flip, get_mk]

theorem hits_eq_true_iff (s : Sprite) (memory : Memory) (screen : Screen) :
    s.hits memory screen = true ↔
      ∃ i, ∃ _ : i < 2048, screen[i] = true ∧ s.covers memory i = true := by
  simp only [hits, List.any_eq_true, List.mem_finRange, true_and, Bool.and_eq_true]
  exact ⟨fun ⟨i, h⟩ => ⟨i.val, i.isLt, h⟩, fun ⟨i, hi, h⟩ => ⟨⟨i, hi⟩, h⟩⟩

end Sprite

namespace Machine

/-- The sprite an instruction draws in this state. -/
def sprite (m : Machine) (x y rows : Nibble) : Sprite where
  left := (m.register x).toNat % 64
  top := (m.register y).toNat % 32
  rows := rows.val
  base := m.index.toNat

/-- Draws a sprite: `execute_display`. -/
def draw (m : Machine) (x y rows : Nibble) : Machine :=
  let s := m.sprite x y rows
  let drawn :=
    { m with
      screen := s.flip m.memory m.screen
      redraw := true
      registers := m.registers.set 15 (Arithmetic.bit (s.hits m.memory m.screen)) }
  (drawn.stopIf (decide (0 < rows.val ∧ 4096 < m.index.toNat + rows.val)) .outOfBounds).next

end Machine

end ChipEight
