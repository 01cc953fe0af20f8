import ChipEight.Machine.Basic

/-!
# Differences between memories

Where two memories differ: runs of bytes as long as they can be, each with its address and
the new bytes.
-/

namespace ChipEight.Memory

/-- Joins pairs of an address and a byte, in ascending order, where addresses follow each
other. -/
def joinRuns : List (Nat × UInt8) → List (Nat × List UInt8)
  | [] => []
  | (a, b) :: rest =>
    match joinRuns rest with
    | (next, bytes) :: more =>
      if next = a + 1 then (a, b :: bytes) :: more else (a, [b]) :: (next, bytes) :: more
    | [] => [(a, [b])]

/-- The runs of bytes that `new` has other than `old`. -/
def changes (old new : Memory) : List (Nat × List UInt8) :=
  joinRuns (((List.finRange 4096).filter fun a => old[a] != new[a]).map fun a => (a.val, new[a]))

/-- A memory does not differ from itself. -/
theorem changes_self (m : Memory) : changes m m = [] := by
  have same : (List.finRange 4096).filter (fun a => m[a] != m[a]) = [] :=
    List.filter_eq_nil_iff.2 fun _ _ => by simp
  simp only [changes, same, List.map_nil, joinRuns]

end ChipEight.Memory
