import ChipEight.Number

/-!
# Cycles per turn

How many cycles a turn does, as the host gives it: `cycles_per_frame` in `run_emulator`.  It goes
up and down by one between the least and the most there is; a number outside of them stays as it
is until it is changed.  Only a whole number of cycles can be done.
-/

namespace ChipEight

/-- Why a value is no number of cycles per turn. -/
inductive SpeedError
  /-- A kind of value that counts nothing. -/
  | notWhole (kind : String)
  /-- A row, to which only a row can be added. -/
  | row (kind : String)
  /-- A kind of value that is neither added nor subtracted. -/
  | operand (sign : String) (kind : String)
deriving DecidableEq, Repr

/-- The wording of the error. -/
def SpeedError.message : SpeedError → String
  | .notWhole kind => "'" ++ kind ++ "' object cannot be interpreted as an integer"
  | .row kind => "can only concatenate " ++ kind ++ " (not \"int\") to " ++ kind
  | .operand sign kind =>
    "unsupported operand type(s) for " ++ sign ++ ": '" ++ kind ++ "' and 'int'"

namespace Speed

/-- The fewest cycles a turn can be slowed down to. -/
def least : Int := 1

/-- The most cycles a turn can be sped up to. -/
def most : Int := 100

/-- One more, and never more than the most. -/
def faster (v : Value) : Except SpeedError Value :=
  match v, Number.ofValue? v with
  | _, some x =>
    let y := x.add (.whole 1)
    .ok (if y.isBelow most then y.toValue else .int most)
  | .text _, none | .list _, none => .error (.row v.kind)
  | _, none => .error (.operand "+" v.kind)

/-- One less, and never less than the least. -/
def slower (v : Value) : Except SpeedError Value :=
  match Number.ofValue? v with
  | some x =>
    let y := x.add (.whole (-1))
    .ok (if y.isAbove least then y.toValue else .int least)
  | none => .error (.operand "-" v.kind)

/-- How many cycles a turn does.  There are none for a number below zero. -/
def cycles : Value → Except SpeedError Nat
  | .int n => .ok n.toNat
  | .bool b => .ok (if b then 1 else 0)
  | v => .error (.notWhole v.kind)

end Speed

end ChipEight
