/-!
# Ordered mappings

A mapping as the list of its entries in the order in which its keys first came.  Giving
a key a new value leaves it where it stands.
-/

namespace ChipEight.Ordered

/-- Gives a key a value. -/
def put {α β : Type} [DecidableEq α] (key : α) (value : β) : List (α × β) → List (α × β)
  | [] => [(key, value)]
  | e :: rest => if e.1 = key then (key, value) :: rest else e :: put key value rest

/-- Gives keys values in order. -/
def putAll {α β : Type} [DecidableEq α] (entries changes : List (α × β)) : List (α × β) :=
  changes.foldl (fun es change => put change.1 change.2 es) entries

end ChipEight.Ordered
