/-!
# Blank characters

White space in the sense of Unicode, the removal of what is blank at the end of a
text, and the last of its lines.  The four separators `U+001C` to `U+001F` are blank at
the end of a line but do not surround numbers, so the two classes are kept apart.
-/

namespace ChipEight.Text

/-- The characters with the Unicode property `White_Space`. -/
def isSpace (c : Char) : Bool :=
  let n := c.toNat
  decide ((9 ≤ n ∧ n ≤ 13) ∨ n = 0x20 ∨ n = 0x85 ∨ n = 0xA0 ∨ n = 0x1680 ∨
    (0x2000 ≤ n ∧ n ≤ 0x200A) ∨ n = 0x2028 ∨ n = 0x2029 ∨ n = 0x202F ∨ n = 0x205F ∨
    n = 0x3000)

/-- White space and the four separators below it. -/
def isBlank (c : Char) : Bool :=
  isSpace c || decide (0x1C ≤ c.toNat ∧ c.toNat ≤ 0x1F)

/-- Removes what satisfies `p` from the end of a list. -/
def dropTrailing (p : Char → Bool) (cs : List Char) : List Char :=
  (cs.reverse.dropWhile p).reverse

/-- Removes the blanks at the end. -/
def trimRight (cs : List Char) : List Char := dropTrailing isBlank cs

/-- Removes the white space on both sides. -/
def trimSpace (cs : List Char) : List Char := dropTrailing isSpace (cs.dropWhile isSpace)

/-- The last line of a text.  Only a line feed ends a line. -/
def lastLine (cs : List Char) : List Char := (cs.reverse.takeWhile (· ≠ '\n')).reverse

end ChipEight.Text
