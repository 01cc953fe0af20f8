import ChipEight.Machine.Basic
import ChipEight.Text.Decimal
import ChipEight.Text.Hex

/-!
# Faults

A fault stops the machine.  Inside the machine it is a number in the error byte,
the first fault to arise being the one that is kept; for the host it is a report
that names the instruction at the program counter.
-/

namespace ChipEight

/-- What the error byte can say: `ErrorCode`.  `clear` means that nothing is wrong. -/
inductive FaultCode
  | clear
  | outOfBounds
  | unknownOpcode
  | stackOverflow
  | stackUnderflow
deriving DecidableEq, Repr

namespace FaultCode

/-- All codes by number. -/
def all : List FaultCode := [.clear, .outOfBounds, .unknownOpcode, .stackOverflow, .stackUnderflow]

/-- The number that is kept in the error byte. -/
def number : FaultCode → UInt8
  | .clear => 0
  | .outOfBounds => 1
  | .unknownOpcode => 2
  | .stackOverflow => 3
  | .stackUnderflow => 4

/-- The code of a number. -/
def ofNumber? (n : Int) : Option FaultCode := all.find? fun c => (c.number.toNat : Int) == n

/-- What is said of a machine that stopped with this code: the `description` of its fault. -/
def description : FaultCode → String
  | .clear => "machine fault"
  | .outOfBounds => "Memory access out of bounds"
  | .unknownOpcode => "Unknown opcode"
  | .stackOverflow => "Call stack overflow"
  | .stackUnderflow => "Return with empty call stack"

/-- What is said of a value that is no code. -/
def refusal (shown : String) : String := shown ++ " is not a valid ErrorCode"

theorem ofNumber?_number (c : FaultCode) : ofNumber? c.number.toNat = some c := by
  cases c <;> rfl

end FaultCode

/-- A fault as it is reported, `MachineFault`: what happened, where, and the instruction word
there if there is a whole one. -/
structure FaultReport where
  code : FaultCode
  address : Int
  opcode : Option Int
deriving DecidableEq, Repr

namespace FaultReport

/-- How a missing instruction word is shown. -/
def unknownWord : String := "????"

/-- The wording of a report from the texts of its parts. -/
def wording (code : FaultCode) (address opcode : String) : String :=
  code.description ++ " at 0x" ++ address ++ " (opcode " ++ opcode ++ ")"

/-- The wording of a report. -/
def message (r : FaultReport) : String :=
  wording r.code (Text.hex 3 r.address)
    (match r.opcode with
    | some w => "0x" ++ Text.hex 4 w
    | none => unknownWord)

end FaultReport

/-- Why a machine does not go on: a fault, or an error byte that is no code. -/
inductive Halt
  | fault (report : FaultReport)
  | invalidCode (number : Int)
deriving DecidableEq, Repr

/-- The wording of a halt. -/
def Halt.message : Halt → String
  | .fault r => r.message
  | .invalidCode n => FaultCode.refusal (Text.decimal n)

namespace Machine

/-- Records a code if the condition holds and nothing was recorded before: `flag`. -/
def stopIf (m : Machine) (condition : Bool) (code : FaultCode) : Machine :=
  { m with error := if m.error == 0 && condition then code.number else m.error }

/-- Whether the machine was stopped. -/
def halted (m : Machine) : Bool := m.error != 0

/-- The word at the program counter, high byte first, which `fetch` packs. -/
def word (m : Machine) : Nat :=
  (m.memory.read m.pc.toNat).toNat * 256 + (m.memory.read (m.pc.toNat + 1)).toNat

/-- Whether a whole word stands at the program counter. -/
def hasWord (m : Machine) : Bool := decide (m.pc.toNat + 1 < 4096)

/-- Why the machine does not go on, if it does not: what `raise_for_error` raises.  The word is
read from memory as it is now. -/
def halt? (m : Machine) : Option Halt :=
  match FaultCode.ofNumber? m.error.toNat with
  | none => some (.invalidCode m.error.toNat)
  | some .clear => none
  | some code =>
    some (.fault
      { code := code
        address := m.pc.toNat
        opcode := if m.hasWord then some (m.word : Int) else none })

end Machine

end ChipEight
