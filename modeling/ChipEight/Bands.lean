import ChipEight.Picture
import ChipEight.Runs

/-!
# Pictures by bands

A picture as bands of equal rows, each row as runs of equal pixels.  The rows a row of
cells becomes are equal, so one of them stands for all; the bands of the picture of any
cells hold all of its rows (`expand_bands_ofColors`).
-/

namespace ChipEight.Picture

/-- How many rows a row of cells becomes. -/
def rowsPerCell (p : Picture) : Nat := p.height / 32

/-- One row for every row of cells. -/
def cellRows (p : Picture) : List (List Color) :=
  (List.range 32).filterMap fun y => p.rows[p.rowsPerCell * y]?

/-- The bands of equal rows. -/
def bands (p : Picture) : List (Nat × List Color) :=
  (Runs.ofList p.cellRows).map fun r => (p.rowsPerCell * r.1, r.2)

theorem getElem?_spread {α : Type} {k : Nat} (h : 0 < k) (items : List α) (i : Nat) :
    (spread k items)[k * i]? = items[i]? := by
  induction items generalizing i with
  | nil => rfl
  | cons x rest ih =>
    unfold spread at ih ⊢
    rw [List.flatMap_cons]
    cases i with
    | zero =>
      rw [Nat.mul_zero, List.getElem?_append_left (by rwa [List.length_replicate]),
        List.getElem?_replicate_of_lt h]
      rfl
    | succ i =>
      rw [List.getElem?_append_right (by simp [Nat.mul_succ]), List.length_replicate,
        Nat.mul_succ, Nat.add_sub_cancel, ih]
      rfl

theorem filterMap_getElem?_range {α : Type} (items : List α) :
    (List.range items.length).filterMap (fun i => items[i]?) = items := by
  induction items with
  | nil => rfl
  | cons x rest ih =>
    rw [List.length_cons, List.range_succ_eq_map, List.filterMap_cons]
    simpa [List.filterMap_map, Function.comp_def] using ih

theorem side_pos (scale : Int) : 0 < side scale := by
  unfold side
  omega

theorem rowsPerCell_ofColors (cells : Vector Color 2048) (scale : Int) :
    (ofColors cells scale).rowsPerCell = side scale := by
  show 32 * side scale / 32 = side scale
  omega

/-- The rows of the picture of any cells are those of its bands. -/
theorem expand_bands_ofColors (cells : Vector Color 2048) (scale : Int) :
    Runs.expand (ofColors cells scale).bands = (ofColors cells scale).rows := by
  have rowsOf : (ofColors cells scale).rows =
      spread (side scale) ((List.finRange 32).map fun y =>
        spread (side scale) ((List.finRange 64).map fun x => cells.get (Layout.cell x y))) := rfl
  have picked : (ofColors cells scale).cellRows =
      (List.finRange 32).map fun y =>
        spread (side scale) ((List.finRange 64).map fun x => cells.get (Layout.cell x y)) := by
    unfold cellRows
    rw [rowsPerCell_ofColors, rowsOf]
    simp only [getElem?_spread (side_pos scale)]
    have := filterMap_getElem?_range ((List.finRange 32).map fun y =>
      spread (side scale) ((List.finRange 64).map fun x => cells.get (Layout.cell x y)))
    rwa [List.length_map, List.length_finRange] at this
  unfold bands
  rw [Runs.expand_scale, Runs.expand_ofList, picked, rowsPerCell_ofColors, rowsOf]
  rfl

end ChipEight.Picture
