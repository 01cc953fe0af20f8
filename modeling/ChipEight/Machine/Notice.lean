import ChipEight.Formatted
import ChipEight.Machine.Fault
import ChipEight.Machine.Image

/-!
# Notices made by the host

Fault reports, complaints about the size of an image, and fault codes that a host makes
itself, of values of any kind.  They are worded like the machine's own.
-/

namespace ChipEight

/-- A fault report of any values, `MachineFault`; an opcode that is null is missing. -/
structure FaultNotice where
  code : FaultCode
  address : Value
  opcode : Value := .null

/-- The wording of a report.  The opcode is written before the address is. -/
def FaultNotice.message (r : FaultNotice) : Except FormattingError String := do
  let opcode ← match r.opcode with
    | .null => .ok FaultReport.unknownWord
    | w => (w.hex 4).map ("0x" ++ ·)
  return FaultReport.wording r.code (← r.address.hex 3) opcode

/-- A complaint about the size of an image, of any values: `ImageTooLargeError`. -/
structure SizeNotice where
  size : Value
  limit : Value := .int Layout.imageCapacity

/-- The wording of the complaint. -/
def SizeNotice.message (n : SizeNotice) : String :=
  OversizedImage.wording n.size.shown n.limit.shown

/-- A value that is no fault code. -/
structure FaultCodeError where
  shown : String
deriving DecidableEq, Repr

/-- The wording of the error. -/
def FaultCodeError.message (e : FaultCodeError) : String := FaultCode.refusal e.shown

/-- The fault code a value is equal to, as `ErrorCode` looks it up. -/
def FaultCode.ofValue (v : Value) : Except FaultCodeError FaultCode :=
  let number : Option Int := match v with
    | .int n => some n
    | .bool b => some (if b then 1 else 0)
    | .float (.finite x) => if x.toRat.den = 1 then some x.truncate else none
    | _ => none
  match number.bind FaultCode.ofNumber? with
  | some code => .ok code
  | none => .error ⟨v.literal⟩

/-- A report of whole numbers is worded like the machine's. -/
theorem FaultNotice.message_ofInt (code : FaultCode) (address opcode : Int) :
    FaultNotice.message ⟨code, .int address, .int opcode⟩
      = .ok (FaultReport.message ⟨code, address, some opcode⟩) := rfl

end ChipEight
