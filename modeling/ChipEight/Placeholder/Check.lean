import ChipEight.Placeholder.Grammar
import ChipEight.Value

/-!
# Checking settings for placeholders

Every text of the settings that opens a placeholder is read, values inside of values in
order.  Most placeholders are of a simple form that is looked for first: a path of plain
names, or a call with plain words for values; white space of all kinds may stand around
their parts.  All others have to follow the grammar.

The complaint about a text names the setting.  Marks in it such as `$KEY`, which a text can
bring along, are filled in.
-/

namespace ChipEight.Placeholder

/-! ## Simple placeholders -/

/-- White space of seven bits. -/
def isSpacing (c : Char) : Bool := c == ' ' || decide (9 ≤ c.toNat ∧ c.toNat ≤ 13)

/-- Removes white space on both sides. -/
def trimmed (cs : List Char) : List Char :=
  ((cs.dropWhile isSpacing).reverse.dropWhile isSpacing).reverse

/-- What plain names in a path are made of. -/
def isNameChar (c : Char) : Bool := c.isAlphanum || c == '_' || c == '$'

/-- What plain words are made of. -/
def isWordChar (c : Char) : Bool := c.isAlphanum || "_/-+.$%*@?|".toList.contains c

/-- Whether a text is the steps of a path: names, each behind a dot or in brackets. -/
def isSteps : List Char → Bool
  | [] => true
  | '.' :: rest => step false rest
  | '[' :: rest => step true rest
  | _ => false
where
  /-- The name of a step and what follows it. -/
  step (bracketed : Bool) : List Char → Bool
    | c :: rest => isNameChar c && inside bracketed rest
    | [] => false
  /-- The rest of a name and what follows it. -/
  inside (bracketed : Bool) : List Char → Bool
    | [] => !bracketed
    | c :: rest =>
      if isNameChar c then inside bracketed rest
      else if bracketed then c == ']' && isSteps rest
      else match c with
        | '.' => step false rest
        | '[' => step true rest
        | _ => false

/-- Whether a text is a simple path: dots, then a name, then steps. -/
def isSimplePath (cs : List Char) : Bool :=
  match cs.dropWhile (· == '.') with
  | '[' :: rest => isSteps ('[' :: rest)
  | rest => isSteps ('.' :: rest)

/-- Whether a text is an identifier. -/
def isIdentifier (cs : List Char) : Bool := identifier? cs == some cs.length

/-- Whether a text is a simple call: a name of identifiers or none, a colon, and words. -/
def isSimpleCall (cs : List Char) : Bool :=
  let name := trimmed (cs.takeWhile (· != ':'))
  let isWord (w : List Char) : Bool := !w.isEmpty && w.all isWordChar
  match cs.dropWhile (· != ':') with
  | [] => false
  | _ :: words =>
    (name.isEmpty || (name.splitOn '.').all isIdentifier)
      && (words.splitOn ',').all fun w => isWord (trimmed w)

/-- Whether all placeholders of a text are simple.  Inside of one, what was read of it is
given, backwards. -/
def allSimple : Option (List Char) → List Char → Bool
  | none, [] => true
  | some _, [] => false
  | none, '$' :: '\x7b' :: rest => allSimple (some []) rest
  | none, _ :: rest => allSimple none rest
  | some read, c :: rest =>
    if c = '\x7d' then
      (isSimplePath (trimmed read.reverse) || isSimpleCall read.reverse) && allSimple none rest
    else allSimple (some (c :: read)) rest

/-- Whether a text opens a placeholder. -/
def opens : List Char → Bool
  | '$' :: '\x7b' :: _ => true
  | _ :: rest => opens rest
  | [] => false

/-- Reads a text that may have placeholders. -/
def checkText (s : String) : Except GrammarError Unit :=
  let cs := s.toList
  if opens cs && !allSimple none cs then parse cs else .ok ()

/-! ## Complaints -/

/-- Where a text stands in the settings. -/
structure Place where
  /-- All steps to it. -/
  path : String
  /-- The last of them, and its kind. -/
  key : String
  keyKind : String
  /-- The kind of what it stands in. -/
  container : String
deriving DecidableEq, Repr

/-- A text of the settings that is refused. -/
structure SettingError where
  place : Place
  text : String
  cause : GrammarError
deriving DecidableEq, Repr

namespace SettingError

/-- What the marks in a complaint stand for. -/
def marks (e : SettingError) : List (String × String) := [
  ("REF_TYPE", "Any"), ("OBJECT_TYPE", e.place.container), ("KEY", e.place.key),
  ("FULL_KEY", e.place.path), ("VALUE", e.text), ("VALUE_TYPE", "str"),
  ("KEY_TYPE", e.place.keyKind)]

/-- The name of a mark a text starts with. -/
def markName (cs : List Char) : List Char :=
  if (cs.head?.map isInitial).getD false then
    cs.takeWhile fun c => isInitial c || c.isDigit
  else []

/-- What a text behind a dollar sign stands for, with its length: a second dollar sign for
one of them, and a mark with or without braces for its text. -/
def mark? (marks : List (String × String)) (cs : List Char) : Option (List Char × Nat) :=
  let look (name : List Char) : Option (List Char) :=
    (marks.lookup (String.ofList name)).map String.toList
  match cs with
  | '$' :: _ => some (['$'], 1)
  | '\x7b' :: rest =>
    let name := markName rest
    if rest[name.length]? = some '\x7d' then (look name).map (·, name.length + 2) else none
  | cs => (look (markName cs)).map (·, (markName cs).length)

/-- Fills marks in, after a number of characters that are left out. -/
def fill (marks : List (String × String)) (skip : Nat) : List Char → List Char
  | [] => []
  | c :: rest =>
    match skip with
    | skip + 1 => fill marks skip rest
    | 0 =>
      match (if c = '$' then mark? marks rest else none) with
      | some (text, n) => text ++ fill marks n rest
      | none => c :: fill marks 0 rest

/-- The wording of the error. -/
def message (e : SettingError) : String :=
  String.ofList (fill e.marks 0 e.cause.message.toList)
    ++ "\n    full_key: " ++ e.place.path ++ "\n    object_type=" ++ e.place.container

end SettingError

/-! ## Settings -/

/-- The place of a field of a record at a path. -/
def fieldPlace (path key : String) : Place :=
  { path := if path = "" then key else path ++ "." ++ key
    key := key
    keyKind := "str"
    container := (Value.record []).kind }

/-- The place of an item of a list at a path. -/
def itemPlace (path : String) (index : Nat) : Place :=
  { path := path ++ "[" ++ Text.decimal index ++ "]"
    key := Text.decimal index
    keyKind := "int"
    container := (Value.list []).kind }

mutual
/-- Checks the texts of a value. -/
def checkValue (place : Place) : Value → Except SettingError Unit
  | .text s => (checkText s).mapError fun cause => ⟨place, s, cause⟩
  | .list items => checkItems place.path 0 items
  | .record fields => checkFields place.path fields
  | _ => .ok ()

/-- Checks the items of a list, of which the first has an index. -/
def checkItems (path : String) (index : Nat) : List Value → Except SettingError Unit
  | [] => .ok ()
  | v :: rest =>
    match checkValue (itemPlace path index) v with
    | .error e => .error e
    | .ok _ => checkItems path (index + 1) rest

/-- Checks the fields of a record. -/
def checkFields (path : String) : List (String × Value) → Except SettingError Unit
  | [] => .ok ()
  | (key, v) :: rest =>
    match checkValue (fieldPlace path key) v with
    | .error e => .error e
    | .ok _ => checkFields path rest
end

/-- Checks all settings. -/
def checkSettings (settings : List (String × Value)) : Except SettingError Unit :=
  checkFields "" settings

end ChipEight.Placeholder
