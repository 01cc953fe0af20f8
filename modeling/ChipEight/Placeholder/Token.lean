/-!
# Tokens of texts with placeholders

A setting can hold placeholders such as `${seed}` or `${name: 1, [2, 3]}`.  Its text is cut
into tokens, the longest that can be at every place and the earlier kind of two that are
equally long.  Which tokens can be depends on what the place is inside of: outside of
placeholders all is text, at the start of one there is a name, behind its colon there are
values, and between quotes there is text again.

Text is one token up to where a placeholder opens or a quote closes.  A backslash in front
takes the meaning from either, and a second one gives it back.
-/

namespace ChipEight.Placeholder

/-- The kinds of token, in the order in which complaints list them. -/
inductive Kind
  | ending
  | anyText
  | escapedOpen
  | escapedBackslash
  | opening
  | braceOpen
  | braceClose
  | singleQuote
  | doubleQuote
  | comma
  | bracketOpen
  | bracketClose
  | colon
  | fraction
  | whole
  | truth
  | null
  | sign
  | identifier
  | escape
  | blanks
  | closing
  | dot
  | key
  | quoteClose
  | quotedEscape
  /-- Characters of no kind. -/
  | unknown
deriving DecidableEq, Repr

namespace Kind

/-- All kinds that complaints can list, with their names. -/
def names : List (Kind × String) := [
  (.ending, "<EOF>"), (.anyText, "ANY_STR"), (.escapedOpen, "ESC_INTER"),
  (.escapedBackslash, "TOP_ESC"), (.opening, "INTER_OPEN"), (.braceOpen, "BRACE_OPEN"),
  (.braceClose, "BRACE_CLOSE"), (.singleQuote, "QUOTE_OPEN_SINGLE"),
  (.doubleQuote, "QUOTE_OPEN_DOUBLE"), (.comma, "COMMA"), (.bracketOpen, "BRACKET_OPEN"),
  (.bracketClose, "BRACKET_CLOSE"), (.colon, "COLON"), (.fraction, "FLOAT"), (.whole, "INT"),
  (.truth, "BOOL"), (.null, "NULL"), (.sign, "UNQUOTED_CHAR"), (.identifier, "ID"),
  (.escape, "ESC"), (.blanks, "WS"), (.closing, "INTER_CLOSE"), (.dot, "'.'"),
  (.key, "INTER_KEY"), (.quoteClose, "MATCHING_QUOTE_CLOSE"), (.quotedEscape, "QUOTED_ESC")]

/-- A set of kinds: the name of a single one, and a list in braces of more. -/
def setText (kinds : List Kind) : String :=
  match (names.filter fun n => kinds.contains n.1).map (·.2) with
  | [one] => one
  | several => "\x7b" ++ ", ".intercalate several ++ "\x7d"

end Kind

/-- A token with the place of its first character. -/
structure Token where
  kind : Kind
  start : Nat
  text : List Char
deriving DecidableEq, Repr

/-- What a place is inside of. -/
inductive Mode
  | plain
  | name
  | values
  | quoted (quote : Char)
deriving DecidableEq, Repr

/-! ## Lengths

Each function gives the length of what it looks for at the start of a text. -/

/-- A length, if it is one. -/
def positive? (n : Nat) : Option Nat := if n = 0 then none else some n

/-- Whether a character is a blank between tokens. -/
def isBlank (c : Char) : Bool := c == ' ' || c == '\t'

/-- A run of characters. -/
def runLength (p : Char → Bool) (cs : List Char) : Nat := (cs.takeWhile p).length

/-- One character with the blanks around it that are allowed. -/
def spaced? (before behind : Bool) (c : Char) (cs : List Char) : Option Nat :=
  let lead := if before then runLength isBlank cs else 0
  match cs.drop lead with
  | d :: rest =>
    if d = c then some (lead + 1 + (if behind then runLength isBlank rest else 0)) else none
  | [] => none

/-- The opening of a placeholder with the blanks behind it. -/
def opening? : List Char → Option Nat
  | '$' :: '\x7b' :: rest => some (2 + runLength isBlank rest)
  | _ => none

/-- A letter of seven bits or an underscore. -/
def isInitial (c : Char) : Bool := c.isAlpha || c == '_'

/-- What an identifier goes on with. -/
def isInner (c : Char) : Bool := isInitial c || c.isDigit || c == '-'

/-- An identifier. -/
def identifier? : List Char → Option Nat
  | c :: rest => if isInitial c then some (1 + runLength isInner rest) else none
  | [] => none

/-- A name of any characters that mean nothing inside of placeholders. -/
def key? (cs : List Char) : Option Nat :=
  positive? (runLength (fun c => !"\\\x7b\x7d()[]:. \t'\"".toList.contains c) cs)

/-- More digits, single underscores between them. -/
def moreDigits : List Char → Nat
  | '_' :: d :: rest => if d.isDigit then 2 + moreDigits rest else 0
  | d :: rest => if d.isDigit then 1 + moreDigits rest else 0
  | [] => 0

/-- A run of digits with single underscores between them. -/
def digits : List Char → Nat
  | d :: rest => if d.isDigit then 1 + moreDigits rest else 0
  | [] => 0

/-- A whole number without a sign: a zero, or digits that start with none. -/
def unsigned : List Char → Nat
  | '0' :: _ => 1
  | d :: rest => if d.isDigit then 1 + moreDigits rest else 0
  | [] => 0

/-- A number with a point, without a sign. -/
def pointed (cs : List Char) : Nat :=
  let lead := unsigned cs
  match cs.drop lead with
  | '.' :: rest => if lead = 0 ∧ digits rest = 0 then 0 else lead + 1 + digits rest
  | _ => 0

/-- A number with an exponent, without a sign. -/
def scaled (cs : List Char) : Nat :=
  let lead := max (unsigned cs) (pointed cs)
  match cs.drop lead with
  | e :: rest =>
    let signed := match rest with
      | s :: _ => if s = '+' ∨ s = '-' then 1 else 0
      | [] => 0
    let power := digits (rest.drop signed)
    if lead = 0 ∨ (e ≠ 'e' ∧ e ≠ 'E') ∨ power = 0 then 0 else lead + 1 + signed + power
  | [] => 0

/-- One of these words, in letters of either case. -/
def word? (words : List String) (cs : List Char) : Option Nat :=
  (words.find? fun w => w.toList.isPrefixOf (cs.map Char.toLower)).map String.length

/-- A number that may have a sign, of which this is the length without one. -/
def signed? (length : List Char → Nat) (cs : List Char) : Option Nat :=
  match cs with
  | c :: rest =>
    if c = '+' ∨ c = '-' then (positive? (length rest)).map (· + 1) else positive? (length cs)
  | [] => none

/-- A number with a fraction, an exponent, or none of the digits. -/
def fraction? : List Char → Option Nat :=
  signed? fun cs => max (max (pointed cs) (scaled cs)) ((word? ["inf", "nan"] cs).getD 0)

/-- A run of characters that a backslash stands in front of. -/
def escapes : List Char → Nat
  | '\\' :: c :: rest =>
    if "\\()[]\x7b\x7d:=, \t".toList.contains c then 2 + escapes rest else 0
  | _ => 0

/-- One of the characters that values can hold without quotes. -/
def sign? : List Char → Option Nat
  | c :: _ => if "/-\\+.$%*@?|".toList.contains c then some 1 else none
  | [] => none

/-- Text up to where a placeholder opens, or the quote closes if there is one.  `escaped`
says that a backslash stands in front. -/
def textLength (quote : Option Char) (escaped : Bool) : List Char → Nat
  | [] => 0
  | '$' :: '\x7b' :: rest => if escaped then 2 + textLength quote false rest else 0
  | c :: rest =>
    if some c = quote ∧ escaped = false then 0
    else 1 + textLength quote (decide (c = '\\') && !escaped) rest

/-! ## Rules -/

/-- The rules of a mode: each kind with what it looks for, the earlier ones first. -/
def rules : Mode → List (Kind × (List Char → Option Nat))
  | .plain => [
    (.opening, opening?),
    (.anyText, fun cs => positive? (textLength none false cs))]
  | .quoted quote => [
    (.opening, opening?),
    (.quoteClose, spaced? false false quote),
    (.anyText, fun cs => positive? (textLength (some quote) false cs))]
  | .name => [
    (.opening, opening?),
    (.colon, spaced? true true ':'),
    (.closing, spaced? true false '\x7d'),
    (.dot, spaced? false false '.'),
    (.bracketOpen, spaced? false false '['),
    (.bracketClose, spaced? false false ']'),
    (.identifier, identifier?),
    (.key, key?)]
  | .values => [
    (.opening, opening?),
    (.braceOpen, spaced? false true '\x7b'),
    (.braceClose, spaced? true false '\x7d'),
    (.singleQuote, spaced? false false '\''),
    (.doubleQuote, spaced? false false '"'),
    (.comma, spaced? true true ','),
    (.bracketOpen, spaced? false true '['),
    (.bracketClose, spaced? true false ']'),
    (.colon, spaced? true true ':'),
    (.fraction, fraction?),
    (.whole, signed? unsigned),
    (.truth, word? ["true", "false"]),
    (.null, word? ["null"]),
    (.sign, sign?),
    (.identifier, identifier?),
    (.escape, fun cs => positive? (escapes cs)),
    (.blanks, fun cs => positive? (runLength isBlank cs))]

/-- The longest token at the start of a text. -/
def longest? (mode : Mode) (cs : List Char) : Option (Kind × Nat) :=
  (rules mode).foldl (fun best rule =>
    match best, rule.2 cs with
    | none, some n => some (rule.1, n)
    | some (kind, m), some n => if m < n then some (rule.1, n) else some (kind, m)
    | best, none => best) none

/-- What the place behind a token is inside of, the innermost first. -/
def follow (modes : List Mode) (kind : Kind) : List Mode :=
  match kind, modes with
  | .opening, _ => .name :: modes
  | .closing, _ :: outer => outer
  | .braceOpen, _ => .values :: modes
  | .braceClose, _ :: outer => outer
  | .singleQuote, _ => .quoted '\'' :: modes
  | .doubleQuote, _ => .quoted '"' :: modes
  | .quoteClose, _ :: outer => outer
  | .colon, .name :: outer => .values :: outer
  | _, _ => modes

/-- Characters that start no token: the blanks and the one behind them. -/
def unknownText (cs : List Char) : List Char := cs.take (runLength isBlank cs + 1)

/-- The tokens of a text whose first character is at a place, with the ending behind them.
Nothing follows characters of no kind. -/
def tokensFrom (fuel : Nat) (modes : List Mode) (start : Nat) (cs : List Char) : List Token :=
  match fuel, cs with
  | 0, _ => []
  | _ + 1, [] => [⟨.ending, start, []⟩]
  | fuel + 1, cs =>
    match longest? (modes.headD .plain) cs with
    | none => [⟨.unknown, start, unknownText cs⟩]
    | some (kind, n) =>
      ⟨kind, start, cs.take n⟩ :: tokensFrom fuel (follow modes kind) (start + n) (cs.drop n)

/-- The tokens of a text. -/
def tokens (cs : List Char) : List Token := tokensFrom (cs.length + 1) [.plain] 0 cs

end ChipEight.Placeholder
