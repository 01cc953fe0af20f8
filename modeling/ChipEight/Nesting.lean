import ChipEight.Value

/-!
# Nested lists

Lists of host values inside each other as boxes of elements: how far a value extends
along each axis, which elements it has, and the complaint about lists that lie beside
each other and do not agree.
-/

namespace ChipEight

/-- How deep lists can be nested. -/
def nestingLimit : Nat := 64

/-- A shape as a row of numbers. -/
def shapeText (shape : List Nat) : String :=
  Value.tuple (shape.map fun (n : Nat) => Text.decimal n)

/-- Lists that do not agree, with the shape up to where they do. -/
structure RaggedError where
  shape : List Nat
deriving DecidableEq, Repr

/-- The wording of the error.  Lists that agree as deep as they can be nested are too deep. -/
def RaggedError.message (e : RaggedError) : String :=
  "setting an array element with a sequence. The requested array "
    ++ (if e.shape.length = nestingLimit then
        "would exceed the maximum number of dimension of " ++ Text.decimal nestingLimit ++ "."
      else
        "has an inhomogeneous shape after " ++ Text.decimal e.shape.length
          ++ " dimensions. The detected shape was " ++ shapeText e.shape
          ++ " + inhomogeneous part.")

/-- The extent of nested lists along each of their axes, as far as they agree, and
whether they agree all the way down. -/
structure Extent where
  shape : List Nat
  regular : Bool
deriving DecidableEq, Repr

namespace Extent

/-- What two shapes have in common from the left. -/
def common : List Nat → List Nat → List Nat
  | a :: as, b :: bs => if a = b then a :: common as bs else []
  | _, _ => []

/-- The extent two neighbours have in common. -/
def meet (a b : Extent) : Extent :=
  ⟨common a.shape b.shape, a.regular && b.regular && decide (a.shape = b.shape)⟩

mutual
/-- The extent of a value along so many axes at most; a list that would need one more
does not agree with anything. -/
def ofValue (axes : Nat) : Value → Extent
  | .list items =>
    match axes with
    | 0 => ⟨[], false⟩
    | axes + 1 =>
      match ofValues axes items with
      | [] => ⟨[0], true⟩
      | e :: rest =>
        let inner := rest.foldl meet e
        ⟨items.length :: inner.shape, inner.regular⟩
  | _ => ⟨[], true⟩

/-- The extents of a list of values. -/
def ofValues (axes : Nat) : List Value → List Extent
  | [] => []
  | v :: rest => ofValue axes v :: ofValues axes rest
end

end Extent

namespace Value

/-- The shape of a value whose lists agree. -/
def shape (v : Value) : Except RaggedError (List Nat) :=
  let e := Extent.ofValue nestingLimit v
  if e.regular then .ok e.shape else .error ⟨e.shape⟩

mutual
/-- The innermost elements of a value, from left to right. -/
def leaves : Value → List Value
  | .list items => allLeaves items
  | v => [v]

/-- The innermost elements of a list of values. -/
def allLeaves : List Value → List Value
  | [] => []
  | v :: rest => leaves v ++ allLeaves rest
end

/-- Whether a value is an element and not a list of them. -/
def isLeaf : Value → Bool
  | .list _ => false
  | _ => true

theorem leaves_of_isLeaf {v : Value} (h : v.isLeaf = true) : leaves v = [v] := by
  cases v with
  | list items => cases h
  | _ => rfl

theorem extent_of_isLeaf (axes : Nat) {v : Value} (h : v.isLeaf = true) :
    Extent.ofValue axes v = ⟨[], true⟩ := by
  cases v with
  | list items => cases h
  | _ => rfl

/-- The elements of a flat list are its items. -/
theorem allLeaves_flat (items : List Value) (h : ∀ v ∈ items, v.isLeaf = true) :
    allLeaves items = items := by
  induction items with
  | nil => rfl
  | cons v rest ih =>
    rw [allLeaves, leaves_of_isLeaf (h v List.mem_cons_self),
      ih fun w hw => h w (List.mem_cons_of_mem v hw)]
    rfl

/-- The items of a flat list have no extent of their own. -/
theorem extents_flat (axes : Nat) (items : List Value) (h : ∀ v ∈ items, v.isLeaf = true) :
    Extent.ofValues axes items = items.map fun _ => ⟨[], true⟩ := by
  induction items with
  | nil => rfl
  | cons v rest ih =>
    rw [Extent.ofValues, extent_of_isLeaf axes (h v List.mem_cons_self),
      ih fun w hw => h w (List.mem_cons_of_mem v hw)]
    rfl

/-- A flat list has one axis, along which it is as long as it is. -/
theorem shape_flat (items : List Value) (h : ∀ v ∈ items, v.isLeaf = true) :
    (Value.list items).shape = .ok [items.length] := by
  have fold : ∀ es : List Value,
      (es.map fun _ => (⟨[], true⟩ : Extent)).foldl Extent.meet ⟨[], true⟩ = ⟨[], true⟩ := by
    intro es
    induction es with
    | nil => rfl
    | cons e rest ih => exact ih
  unfold shape Extent.ofValue
  rw [show nestingLimit = 63 + 1 from rfl]
  cases items with
  | nil => rfl
  | cons v rest =>
    simp only [extents_flat 63 (v :: rest) h, List.map_cons, fold]
    rfl

end Value

end ChipEight
