import ChipEight.Text.Decimal

/-!
# Numbers of arguments

An operation that is called by its name takes arguments in order.  The first of them are
required; the rest may be left out.  A method counts the object it belongs to as its first.
-/

namespace ChipEight

/-- What an operation takes. -/
structure Arity where
  /-- The name it is called by. -/
  owner : String
  /-- The names of the arguments that are required. -/
  required : List String
  /-- How many more there may be. -/
  optional : Nat := 0
  /-- How many arguments come with the call itself. -/
  bound : Nat := 0

/-- Why a call is refused. -/
inductive ArityError
  | missing (owner : String) (names : List String)
  | tooMany (owner : String) (least most given : Nat)
deriving DecidableEq, Repr

namespace ArityError

/-- Names in a sentence: two are joined by a word, and before the last of more there is a
comma, too. -/
def enumerated : List String → String
  | [] => ""
  | [a] => a
  | [a, b] => a ++ " and " ++ b
  | [a, b, c] => a ++ ", " ++ b ++ ", and " ++ c
  | a :: rest => a ++ ", " ++ enumerated rest

/-- The wording of the error. -/
def message : ArityError → String
  | .missing owner names =>
    owner ++ "() missing " ++ Text.decimal names.length ++ " required positional argument"
      ++ (if names.length = 1 then ": " else "s: ")
      ++ enumerated (names.map fun n => "'" ++ n ++ "'")
  | .tooMany owner least most given =>
    owner ++ "() takes "
      ++ (if least = most then Text.decimal most
        else "from " ++ Text.decimal least ++ " to " ++ Text.decimal most)
      ++ (if least = 1 ∧ most = 1 then " positional argument but " else " positional arguments but ")
      ++ Text.decimal given ++ (if given = 1 then " was given" else " were given")

end ArityError

namespace Arity

/-- Refuses a number of arguments that an operation does not take. -/
def check (a : Arity) (given : Nat) : Except ArityError Unit :=
  if given < a.required.length then .error (.missing a.owner (a.required.drop given))
  else if a.required.length + a.optional < given then
    .error (.tooMany a.owner (a.bound + a.required.length)
      (a.bound + a.required.length + a.optional) (a.bound + given))
  else .ok ()

/-- Exactly the numbers between the least and the most are taken. -/
theorem check_eq_ok_iff (a : Arity) (given : Nat) :
    a.check given = .ok () ↔
      a.required.length ≤ given ∧ given ≤ a.required.length + a.optional := by
  unfold check
  split
  · simp; omega
  · split
    · simp; omega
    · simp; omega

end Arity

end ChipEight
