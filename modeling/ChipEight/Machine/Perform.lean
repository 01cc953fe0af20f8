import ChipEight.Instruction.Dispatch
import ChipEight.Machine.Sprite

/-!
# What instructions do

`Machine.perform` does one instruction and `Machine.execute` the instruction of a
word.  An instruction that cannot be done whole does what it can and records a
fault: a return without a call goes to address zero, a call on a full stack jumps
without a trace, and bytes past the end of memory are dropped or read as the last
one.  It is the cycle that takes such work back (`ChipEight.Machine.Cycle`).
-/

namespace ChipEight

namespace Machine

/-- The key a register names: only its last nibble counts, as for the two handlers of
`execute_skip_if_key`. -/
def namedKey (m : Machine) (x : Nibble) : Nibble := Fin.ofNat 16 (m.register x).toNat

/-- Whether a test holds: the conditions given to `make_skip_instruction`. -/
def holds (m : Machine) : Test → Bool
  | .equalsByte x b => m.register x == b
  | .differsByte x b => m.register x != b
  | .equals x y => m.register x == m.register y
  | .differs x y => m.register x != m.register y
  | .keyDown x => m.keypad.get (m.namedKey x)
  | .keyUp x => !m.keypad.get (m.namedKey x)

/-- The register whose byte a jump with an offset adds: `execute_jump_with_offset_legacy` and
`execute_jump_with_offset_modern`. -/
def offsetRegister (mode : Mode) (target : Address) : Nibble :=
  match mode with
  | .legacy => 0
  | .modern => Fin.ofNat 16 (target.val / 256)

/-- Puts the result of an operation into its register, then the flag into the flag register: the
handlers of `make_register_op`, `make_flag_op` and `make_shift_op`. -/
def putResult (m : Machine) (x : Nibble) (r : Arithmetic.Result) : Machine :=
  match r.flag with
  | none => m.setRegister x r.byte
  | some f => (m.setRegister x r.byte).setRegister 15 f

/-- The three decimal digits of a byte, as `execute_bcd_conversion` finds them. -/
def decimalDigits (b : UInt8) : List UInt8 := [b / 100, b / 10 % 10, b % 10]

/-- Whether some byte at the index up to this offset is past the end of memory, as
`execute_bcd_conversion` and `_register_window` ask. -/
def reachesOut (m : Machine) (offset : Nat) : Bool := decide (4096 ≤ m.index.toNat + offset)

/-- In the legacy dialect moving registers moves the index behind the last of them:
`_after_transfer`. -/
def movedIndex (m : Machine) (x : Nibble) : Machine :=
  match m.mode with
  | .legacy => { m with index := m.index + UInt16.ofNat (x.val + 1) }
  | .modern => m

/-- The registers up to `x` with the bytes at the index, the others as they are: what
`execute_load_registers` reads. -/
def restored (m : Machine) (x : Nibble) : Registers :=
  Vector.ofFn fun r =>
    if r.val ≤ x.val then m.memory.read (m.index.toNat + r.val) else m.register r

/-- Does one instruction: the handlers from `execute_clear_screen` to `execute_load_registers`,
in the order of the families. -/
def perform (m : Machine) : Instruction → Machine
  | .clear => { m with screen := Screen.dark, redraw := true }.next
  | .ret =>
    let (stack, address) := m.stack.pop
    ({ m with stack := stack, pc := address }.next).stopIf m.stack.isEmpty .stackUnderflow
  | .jump a => { m with pc := UInt16.ofNat a.val }
  | .call a =>
    { m with stack := m.stack.push m.pc, pc := UInt16.ofNat a.val }.stopIf m.stack.isFull
      .stackOverflow
  | .skipIf t => m.advance (if m.holds t then 2 else 1)
  | .load x b => (m.setRegister x b).next
  | .increase x b => (m.setRegister x (m.register x + b)).next
  | .alu op x y => (m.putResult x (op.apply m.mode (m.register x) (m.register y))).next
  | .setIndex a => { m with index := UInt16.ofNat a.val }.next
  | .jumpOffset a =>
    { m with pc := UInt16.ofNat a.val + (m.register (offsetRegister m.mode a)).toUInt16 }
  | .random x mask => ({ m with key := m.key.next }.setRegister x (m.key.byte &&& mask)).next
  | .draw x y rows => m.draw x y rows
  | .readDelay x => (m.setRegister x m.delay).next
  | .awaitKey x =>
    match m.keypad.lowest? with
    | none => m
    | some k => (m.setRegister x (UInt8.ofNat k.val)).next
  | .setDelay x => { m with delay := m.register x }.next
  | .setSound x => { m with sound := m.register x }.next
  | .addIndex x => { m with index := m.index + (m.register x).toUInt16 }.next
  | .glyph x => { m with index := (m.register x).toUInt16 * 5 }.next
  | .decimal x =>
    ({ m with memory := m.memory.writeAll m.index.toNat (decimalDigits (m.register x)) }.stopIf
      (m.reachesOut 2) .outOfBounds).next
  | .store x =>
    let bytes := m.registers.toList.take (x.val + 1)
    (({ m with memory := m.memory.writeAll m.index.toNat bytes }.movedIndex x).stopIf
      (m.reachesOut x.val) .outOfBounds).next
  | .restore x =>
    (({ m with registers := m.restored x }.movedIndex x).stopIf
      (m.reachesOut x.val) .outOfBounds).next

/-- Does the instruction of a word: `execute`.  A word without one is a fault. -/
def execute (m : Machine) (word : Int) : Machine :=
  match Instruction.dispatch (Fields.ofWord word) with
  | some i => m.perform i
  | none => m.stopIf true .unknownOpcode

end Machine

/-- A number that does not fit into a machine integer of 32 bits. -/
inductive WidthError
  /-- A word. -/
  | word (number : Int)
  /-- A number that takes part in a computation, with the name it has there. -/
  | argument (name : String) (number : Int)
deriving DecidableEq, Repr

namespace WidthError

/-- The wording of the error. -/
def message : WidthError → String
  | .word n => "Python int " ++ Text.decimal n ++ " too large to convert to int32"
  | .argument name n =>
    "An overflow was encountered while parsing an argument to a jitted computation, whose "
      ++ "argument path is " ++ name ++ ". Got <class 'int'> with value " ++ Text.decimal n

/-- Whether a number has 32 bits with a sign. -/
def fits (n : Int) : Bool := decide (-2147483648 ≤ n ∧ n ≤ 2147483647)

/-- Accepts the words of 32 bits. -/
def checkWord (n : Int) : Except WidthError Unit := if fits n then .ok () else .error (.word n)

/-- Accepts the numbers of 32 bits that can take part in a computation. -/
def checkArgument (name : String) (n : Int) : Except WidthError Unit :=
  if fits n then .ok () else .error (.argument name n)

end WidthError

namespace Machine

/-- Does the instruction of a word given by the host, which has to fit into 32 bits. -/
def execute? (m : Machine) (word : Int) : Except WidthError Machine := do
  WidthError.checkWord word
  return m.execute word

/-- Moves the program counter on behalf of the host. -/
def advance? (m : Machine) (instructions : Int) : Except WidthError Machine := do
  WidthError.checkArgument "y" (2 * instructions)
  return m.advance instructions

end Machine

end ChipEight
