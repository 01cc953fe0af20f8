/-!
# The random stream

Random bytes come from a keyed block function of twenty rounds on pairs of 32-bit
words.  A key yields one byte and the next key, so a stream is fixed by its first
key and a byte by how many were drawn before it.  `execute_random` draws with `split` for
the next key and `randint` for the byte.
-/

namespace ChipEight.Random

/-- A pair of words: a key, or a block. -/
structure Key where
  first : UInt32
  second : UInt32
deriving DecidableEq, Repr

namespace Key

/-- Seeds are the integers of 64 signed bits. -/
def isSeed (seed : Int) : Bool := decide (-0x8000000000000000 ≤ seed ∧ seed < 0x8000000000000000)

/-- The key of a seed: only its low 32 bits count.  This is `PRNGKey`. -/
def ofSeed (seed : Int) : Key := ⟨0, UInt32.ofInt seed⟩

/-- Turns a word left. -/
def rotate (w amount : UInt32) : UInt32 := (w <<< amount) ||| (w >>> (32 - amount))

/-- One round: the second word is turned and mixed into the sum. -/
def round (s : Key) (amount : UInt32) : Key :=
  let a := s.first + s.second
  ⟨a, rotate s.second amount ^^^ a⟩

/-- The turns of a group of four rounds. -/
def turns (group : Nat) : List UInt32 :=
  if group % 2 = 0 then [13, 15, 26, 6] else [17, 29, 16, 24]

/-- The three words that are injected between groups, taken cyclically. -/
def part (k : Key) (i : Nat) : UInt32 :=
  match i % 3 with
  | 0 => k.first
  | 1 => k.second
  | _ => k.first ^^^ k.second ^^^ 0x1BD11BDA

/-- A group of four rounds and the injection behind it. -/
def group (k s : Key) (i : Nat) : Key :=
  let t := (turns i).foldl round s
  ⟨t.first + k.part (i + 1), t.second + k.part (i + 2) + UInt32.ofNat (i + 1)⟩

/-- The block function: five groups of rounds under the key. -/
def encrypt (k block : Key) : Key :=
  (List.range 5).foldl k.group ⟨block.first + k.part 0, block.second + k.part 1⟩

/-- The key after one byte was drawn, the first that `split` gives. -/
def next (k : Key) : Key := k.encrypt ⟨0, 0⟩

/-- The byte a key yields: what `randint` draws with the second key of `split`. -/
def byte (k : Key) : UInt8 :=
  let drawn := ((k.encrypt ⟨0, 1⟩).encrypt ⟨0, 1⟩).encrypt ⟨0, 0⟩
  (drawn.first ^^^ drawn.second).toUInt8

end Key

end ChipEight.Random
