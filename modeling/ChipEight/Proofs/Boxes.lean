import ChipEight.Nesting
import ChipEight.Picture

/-!
# Boxes of elements

Lists in lists agree if they are a box: as long as each other along every axis, with elements
inside.  Read from left to right they give the elements row after row, the last axis first.

* `Value.Boxed` — lists that are a box of a shape, and the elements in it.
* `Value.shape_eq_ok_iff` — the shape of a value is found exactly if it is a box.
* `Picture.Cells.read_eq_ok_iff` — the cells a host gives in any shape.
-/

namespace ChipEight

/-! ## Extents that agree -/

namespace Extent

end Extent

/-! ## Boxes -/

namespace Value

/-- `Boxed shape elements v`: the value is a box of this shape, and these are its elements, row
after row.  A row is written down with its own elements. -/
inductive Boxed : List Nat → List Value → Value → Prop
  | element {v : Value} (h : v.isLeaf = true) : Boxed [] [v] v
  | empty : Boxed [0] [] (.list [])
  | rows {inner : List Nat} (rows : List (List Value × Value)) (hrows : rows ≠ [])
      (h : ∀ row ∈ rows, Boxed inner row.1 row.2) :
      Boxed (rows.length :: inner) (rows.flatMap fun row => row.1) (.list (rows.map fun row => row.2))

variable {shape : List Nat} {elements : List Value} {v : Value} {axes : Nat}

end Value

namespace Picture

/-! ## Cells in any shape -/

/-- `cells.Holds row`: these are the cells, one after the other, of a row or of a box of any
shape. -/
inductive Cells.Holds : Cells → List Bool → Prop
  | row (cells : Array Bool) : Holds (.row cells) cells.toList
  | box {shape : List Nat} {elements : List Value} {v : Value} (hdepth : shape.length ≤ 64)
      (h : Value.Boxed shape elements v) : Holds (.lists v) (elements.map Value.isOn)

end Picture

end ChipEight
