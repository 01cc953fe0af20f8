import ChipEight.Machine.Basic
import ChipEight.Text.Decimal
import ChipEight.Text.Hex

/-!
# The machine in words

The lines in which a host shows the registers of a machine, in `debug_lines` and at the end of a
batch run.
-/

namespace ChipEight.Machine

/-- Program counter, index and stack depth. -/
def positionLine (m : Machine) : String :=
  "PC: 0x" ++ Text.hex 3 m.pc.toNat ++ "  I: 0x" ++ Text.hex 3 m.index.toNat
    ++ "  SP: " ++ Text.decimal m.stack.depth.toNat

/-- Both timers. -/
def timerLine (m : Machine) : String :=
  "Delay: " ++ Text.decimal m.delay.toNat ++ "  Sound: " ++ Text.decimal m.sound.toNat

/-- All registers in order. -/
def registerLine (m : Machine) : String :=
  "V: " ++ " ".intercalate (m.registers.toList.map fun b => Text.hex 2 b.toNat)

/-- Eight registers with their names. -/
def registerRow (m : Machine) (first : Nat) : String :=
  " ".intercalate ((List.range 8).map fun k =>
    let r := Fin.ofNat 16 (first + k)
    "V" ++ Text.hex 1 r.val ++ ":" ++ Text.hex 2 (m.register r).toNat)

end ChipEight.Machine
