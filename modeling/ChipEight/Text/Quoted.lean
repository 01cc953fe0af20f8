import ChipEight.Text.Hex
import ChipEight.Text.Printable

/-!
# Quoted text

Text between apostrophes, or between double quotes if it holds an apostrophe and no
double quote.  The quote and the backslash are escaped by a backslash, line breaks
and tabs by a letter, and all else that is not printable by its code point.
-/

namespace ChipEight.Text

/-- A code point in lower-case digits. -/
def codePoint (width : Nat) (c : Char) : List Char :=
  (hexChars width c.toNat).map Char.toLower

/-- How a character is written between two `quote`s. -/
def quotedChar (quote c : Char) : List Char :=
  if c = quote ∨ c = '\\' then ['\\', c]
  else if c = '\n' then ['\\', 'n']
  else if c = '\r' then ['\\', 'r']
  else if c = '\t' then ['\\', 't']
  else if isPrintable c then [c]
  else if c.toNat < 0x100 then '\\' :: 'x' :: codePoint 2 c
  else if c.toNat < 0x10000 then '\\' :: 'u' :: codePoint 4 c
  else '\\' :: 'U' :: codePoint 8 c

/-- The quote a text is written with. -/
def quoteFor (s : List Char) : Char :=
  if '\'' ∈ s ∧ '"' ∉ s then '"' else '\''

/-- A text with its quotes. -/
def quoted (s : String) : String :=
  let q := quoteFor s.toList
  String.ofList (q :: s.toList.flatMap (quotedChar q) ++ [q])

end ChipEight.Text
