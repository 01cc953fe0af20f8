import ChipEight.Instruction.Assembly
import ChipEight.Machine.Cycle
import ChipEight.Text.Blank

/-!
# The trace

A record names one instruction that was fetched: where, which word, and how it is
written.  A cycle that starts on a running machine is recorded once, also when it ends
with a fault; a stopped machine records nothing.
-/

namespace ChipEight

/-- One line of a trace: `TraceRecord`. -/
structure Record where
  address : Int
  opcode : Int
  assembly : Assembly
deriving DecidableEq, Repr

namespace Record

/-- The record of a word at an address: `make_record`. -/
def ofWord (address opcode : Int) : Record := ⟨address, opcode, Assembly.ofWord opcode⟩

/-- The characters of a line: the address, the word and the mnemonic in columns, then
the operands; blanks at the end are dropped. -/
def lineChars (r : Record) : List Char :=
  Text.trimRight
    (['0', 'x'] ++ Text.hexChars 3 r.address ++ [' ', ' '] ++ Text.hexChars 4 r.opcode ++ [' ', ' ']
      ++ Text.padRight ' ' 4 r.assembly.mnemonic.toList ++ [' ']
      ++ [',', ' '].intercalate (r.assembly.operands.map String.toList))

/-- The line of a record. -/
def line (r : Record) : String := String.ofList r.lineChars

end Record

namespace Machine

/-- What the next cycle puts into the trace: `step` calls `emit` before the word is done, and on a
machine that runs. -/
def record? (m : Machine) : Option Record :=
  if m.halted then none else some (Record.ofWord m.pc.toNat m.word)

/-- The trace of a number of cycles: what the sink of `run_n_cycles` is sent. -/
def trace (m : Machine) : Nat → List Record
  | 0 => []
  | n + 1 => m.record?.toList ++ m.cycle.trace n

end Machine

end ChipEight
