/-!
# Runs

A list as the runs of its equal elements: each element once, with the number of times it
stands there in a row.  Nothing is lost (`expand_ofList`).
-/

namespace ChipEight.Runs

variable {α : Type} [DecidableEq α]

/-- Puts an element in front of runs. -/
def cons (x : α) : List (Nat × α) → List (Nat × α)
  | (n, y) :: rest => if x = y then (n + 1, y) :: rest else (1, x) :: (n, y) :: rest
  | [] => [(1, x)]

/-- The runs of a list. -/
def ofList (xs : List α) : List (Nat × α) := xs.foldr cons []

omit [DecidableEq α] in
/-- The list of runs. -/
def expand (runs : List (Nat × α)) : List α := runs.flatMap fun r => List.replicate r.1 r.2

theorem expand_cons (x : α) (runs : List (Nat × α)) : expand (cons x runs) = x :: expand runs := by
  match runs with
  | [] => rfl
  | (n, y) :: rest =>
    by_cases h : x = y
    · subst h
      simp [cons, expand, List.replicate_succ]
    · simp [cons, expand, h]

/-- The runs of a list hold all of it. -/
theorem expand_ofList (xs : List α) : expand (ofList xs) = xs := by
  induction xs with
  | nil => rfl
  | cons x rest ih =>
    show expand (cons x (ofList rest)) = x :: rest
    rw [expand_cons, ih]

omit [DecidableEq α] in
/-- Runs that are `k` times as long hold every element `k` times as often. -/
theorem expand_scale (k : Nat) (runs : List (Nat × α)) :
    expand (runs.map fun r => (k * r.1, r.2)) = (expand runs).flatMap (List.replicate k) := by
  have times (n : Nat) (x : α) :
      List.replicate (k * n) x = (List.replicate n x).flatMap (List.replicate k) := by
    induction n with
    | zero => simp
    | succ n ih =>
      rw [Nat.mul_succ, Nat.add_comm, ← List.replicate_append_replicate, ih,
        List.replicate_succ, List.flatMap_cons]
  induction runs with
  | nil => rfl
  | cons r rest ih =>
    simp only [expand, List.map_cons, List.flatMap_cons, List.flatMap_append] at ih ⊢
    rw [ih, times]

end ChipEight.Runs
