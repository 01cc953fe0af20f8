import ChipEight.Arithmetic
import ChipEight.Layout
import ChipEight.Random

/-!
# The state of the machine

Memory, registers, stack, timers, screen and keypad, as vectors of their exact sizes:
`EmulatorState`.  Reading memory past its end gives the last byte and writing there does nothing,
so no address has to be checked before it is used: whether an address was in range is a matter of
the fault code alone (`ChipEight.Machine.Fault`).
-/

namespace ChipEight

/-- The bytes of memory. -/
abbrev Memory := Vector UInt8 4096

/-- The byte registers. -/
abbrev Registers := Vector UInt8 16

/-- The cells of the screen, row by row: cell `(x, y)` is at `x + 64 * y`. -/
abbrev Screen := Vector Bool 2048

/-- Which keys are held. -/
abbrev Keypad := Vector Bool 16

/-- An element is the same by its number and by its place. -/
theorem get_mk {α : Type} {n : Nat} (v : Vector α n) (i : Nat) (h : i < n) :
    v.get ⟨i, h⟩ = v[i] := rfl

namespace Memory

/-- The byte at an address; past the end it is the last one. -/
def read (m : Memory) (a : Nat) : UInt8 := m[min a 4095]

/-- Puts a byte at an address; past the end nothing is written. -/
def write (m : Memory) (a : Nat) (b : UInt8) : Memory := m.setIfInBounds a b

/-- Puts bytes at consecutive addresses. -/
def writeAll (m : Memory) (a : Nat) : List UInt8 → Memory
  | [] => m
  | b :: rest => writeAll (write m a b) (a + 1) rest

/-- Memory that holds nothing but the glyphs. -/
def fresh : Memory := writeAll (Vector.replicate 4096 0) Layout.fontStart Layout.glyphs

theorem getElem_write (m : Memory) (a i : Nat) (b : UInt8) (h : i < 4096) :
    (m.write a b)[i] = if a = i then b else m[i] := by
  simp [write, Vector.getElem_setIfInBounds]

/-- What is at an address after consecutive bytes were written. -/
theorem getElem_writeAll (m : Memory) (a i : Nat) (bytes : List UInt8) (h : i < 4096) :
    (m.writeAll a bytes)[i] = if a ≤ i then bytes.getD (i - a) m[i] else m[i] := by
  induction bytes generalizing m a with
  | nil => simp [writeAll]
  | cons b rest ih =>
    rw [writeAll, ih, getElem_write]
    by_cases hai : a = i
    · subst hai
      have hle : ¬ a + 1 ≤ a := by omega
      simp [hle]
    · by_cases hlt : a ≤ i
      · have hle : a + 1 ≤ i := by omega
        have hsub : i - a = (i - (a + 1)) + 1 := by omega
        simp [hai, hlt, hle, hsub]
      · have hle : ¬ a + 1 ≤ i := by omega
        simp [hai, hlt, hle]

end Memory

namespace Screen

/-- All cells dark. -/
def dark : Screen := Vector.replicate 2048 false

end Screen

namespace Keypad

/-- No key held. -/
def released : Keypad := Vector.replicate 16 false

/-- Exactly these keys held. -/
def ofKeys (keys : List Nibble) : Keypad :=
  keys.foldl (fun pad (k : Nibble) => pad.set k true) released

/-- The held keys in ascending order. -/
def held (pad : Keypad) : List Nibble := (List.finRange 16).filter fun k => pad.get k

/-- The lowest held key. -/
def lowest? (pad : Keypad) : Option Nibble := (List.finRange 16).find? fun k => pad.get k

theorem get_ofKeys (keys : List Nibble) (k : Nibble) : (ofKeys keys).get k = true ↔ k ∈ keys := by
  obtain ⟨k, hk⟩ := k
  have fold : ∀ pad : Keypad,
      (keys.foldl (fun pad (j : Nibble) => pad.set j true) pad).get ⟨k, hk⟩ = true ↔
        pad.get ⟨k, hk⟩ = true ∨ ⟨k, hk⟩ ∈ keys := by
    induction keys with
    | nil => simp
    | cons j rest ih =>
      intro pad
      rw [List.foldl_cons, ih, List.mem_cons, get_mk, get_mk, Vector.getElem_set, Fin.ext_iff]
      by_cases hjk : j.val = k
      · simp [hjk]
      · simp [hjk, Ne.symm hjk]
  have hnone : released.get ⟨k, hk⟩ = false := by simp [released, get_mk]
  simp [ofKeys, fold, hnone]

end Keypad

/-- The stack of open calls, `StackState`.  Every byte can be the depth: a depth above the
capacity is a stack that has overflowed. -/
structure Stack where
  slots : Vector UInt16 16
  depth : UInt8
deriving DecidableEq, Repr

namespace Stack

/-- No open call. -/
def empty : Stack := ⟨Vector.replicate 16 0, 0⟩

/-- No call can be closed: `is_empty`. -/
def isEmpty (s : Stack) : Bool := s.depth == 0

/-- No call can be opened: `is_full`. -/
def isFull (s : Stack) : Bool := decide (16 ≤ s.depth.toNat)

/-- Opens a call: `push`.  Twelve bits of the address are kept; a full stack drops them. -/
def push (s : Stack) (address : UInt16) : Stack :=
  ⟨s.slots.setIfInBounds s.depth.toNat (address &&& 0xFFF), s.depth + 1⟩

/-- Closes a call and clears its slot: `pop`.  An empty stack stays as it is and gives zero;
a slot past the last one reads as the last one. -/
def pop (s : Stack) : Stack × UInt16 :=
  if s.isEmpty then (s, 0)
  else
    let top := (s.depth - 1).toNat
    (⟨s.slots.setIfInBounds top 0, s.depth - 1⟩, s.slots[min top 15])

end Stack

/-- The whole state.  `error` is the number of the fault that stopped the machine, zero
while it runs; `redraw` says that the screen was drawn on since the host last looked. -/
structure Machine where
  mode : Mode
  key : Random.Key
  memory : Memory
  pc : UInt16
  index : UInt16
  registers : Registers
  stack : Stack
  delay : UInt8
  sound : UInt8
  screen : Screen
  redraw : Bool
  keypad : Keypad
  error : UInt8
deriving DecidableEq, Repr

namespace Machine

/-- A machine that was just switched on: `create_state`. -/
def fresh (mode : Mode) (key : Random.Key) : Machine where
  mode := mode
  key := key
  memory := Memory.fresh
  pc := UInt16.ofNat Layout.programStart
  index := 0
  registers := Vector.replicate 16 0
  stack := Stack.empty
  delay := 0
  sound := 0
  screen := Screen.dark
  redraw := false
  keypad := Keypad.released
  error := 0

/-- Moves the program counter by a number of instructions, wrapping at sixteen bits:
`advance`. -/
def advance (m : Machine) (instructions : Int) : Machine :=
  { m with pc := m.pc + UInt16.ofInt (2 * instructions) }

/-- Continues with the next instruction. -/
def next (m : Machine) : Machine := m.advance 1

/-- The byte in a register. -/
def register (m : Machine) (x : Nibble) : UInt8 := m.registers.get x

/-- Puts a byte into a register. -/
def setRegister (m : Machine) (x : Nibble) (b : UInt8) : Machine :=
  { m with registers := m.registers.set x b }

theorem register_setRegister (m : Machine) (x r : Nibble) (b : UInt8) :
    (m.setRegister x b).register r = if x = r then b else m.register r := by
  obtain ⟨r, hr⟩ := r
  simp only [register, setRegister, get_mk, Vector.getElem_set, Fin.ext_iff]

/-- The host has seen the screen: `clear_draw_flag`. -/
def acknowledge (m : Machine) : Machine := { m with redraw := false }

/-- The rows of the screen from top to bottom: `display_frame`. -/
def rows (m : Machine) : List (List Bool) :=
  (List.finRange 32).map fun y => (List.finRange 64).map fun x => m.screen.get (Layout.cell x y)

end Machine

end ChipEight
