import ChipEight.Placeholder.Token

/-!
# The grammar of placeholders

A placeholder is a path, `${a.b[c]}`, or a call, `${f: x, [y], {k: z}, 'text'}`, and both
can hold placeholders again.  A text is read token by token with a stack of what is still
to come, the innermost first.  Whether a placeholder is a path or a call is open until a
token decides it.

A token that cannot come next is refused.  While some placeholder is undecided, all of it
up to the token is quoted.  Otherwise the complaint names what could have come, and says
whether the text would go on well without the token, or with one in front of it.
-/

namespace ChipEight.Placeholder

/-- What is still to come. -/
inductive Frame
  /-- The rest of the text. -/
  | text
  /-- A quoted text from its start, or the rest of one. -/
  | quoteStart
  | quoteRest
  /-- An undecided placeholder with its place: from its start, behind a name, or behind a
  name and a dot. -/
  | opened (start : Nat)
  | named (start : Nat)
  | dotted (start : Nat)
  /-- A path behind the dots in front of its first name. -/
  | dots
  /-- A name in brackets, the first of the path or not, or the bracket behind it. -/
  | bracketName (first : Bool)
  | bracketEnd (first : Bool)
  /-- The rest of a path, of which some steps were read or not. -/
  | path (stepped : Bool)
  /-- The name behind a dot of a path. -/
  | dotName
  /-- The values of a call or a list: from the start, behind a comma, or behind a value. -/
  | values (close : Kind)
  | commaRest (close : Kind)
  | valueRest (close : Kind)
  /-- The rest of a plain value. -/
  | words
  /-- A record from its start. -/
  | recordStart
  /-- The name of an entry behind a comma, the rest of a name, the value of an entry, and
  what follows an entry; the first entry is told from the others. -/
  | entryName
  | nameRest (later : Bool)
  | entryValue (later : Bool)
  | entryRest (later : Bool)
deriving DecidableEq, Repr

namespace Kind

/-- What text is made of. -/
def texts : List Kind := [.anyText, .escapedOpen, .escapedBackslash, .opening, .escape, .quotedEscape]

/-- What the name of an entry is made of. -/
def nameParts : List Kind :=
  [.identifier, .null, .whole, .fraction, .truth, .sign, .escape, .blanks]

/-- What a plain value is made of, placeholders apart. -/
def wordParts : List Kind := .colon :: nameParts

/-- What a value starts with. -/
def valueStarts : List Kind :=
  [.opening, .singleQuote, .doubleQuote, .bracketOpen, .braceOpen] ++ wordParts

/-- What a name in a path is. -/
def pathNames : List Kind := [.opening, .identifier, .key]

end Kind

/-- The stack behind the first token of a value, if it is one. -/
def startValue (t : Token) (rest : List Frame) : Option (List Frame) :=
  match t.kind with
  | .opening => some (.opened t.start :: .words :: rest)
  | .singleQuote | .doubleQuote => some (.quoteStart :: rest)
  | .bracketOpen => some (.values .bracketClose :: rest)
  | .braceOpen => some (.recordStart :: rest)
  | kind => if Kind.wordParts.contains kind then some (.words :: rest) else none

/-- The stack behind a name of a path, if the token is one. -/
def startName (t : Token) (rest : List Frame) : Option (List Frame) :=
  match t.kind with
  | .opening => some (.opened t.start :: rest)
  | .identifier | .key => some rest
  | _ => none

/-- The stack behind a token, or nothing if it cannot come next. -/
def advance (t : Token) : List Frame → Option (List Frame)
  | [] => none
  | .text :: below =>
    match t.kind with
    | .opening => some (.opened t.start :: .text :: below)
    | .ending => some below
    | kind => if Kind.texts.contains kind then some (.text :: below) else none
  | .quoteStart :: below | .quoteRest :: below =>
    match t.kind with
    | .opening => some (.opened t.start :: .quoteRest :: below)
    | .quoteClose => some below
    | kind => if Kind.texts.contains kind then some (.quoteRest :: below) else none
  | .opened s :: below =>
    match t.kind with
    | .dot => some (.dots :: below)
    | .bracketOpen => some (.bracketName true :: below)
    | .key => some (.path false :: below)
    | .identifier => some (.named s :: below)
    | .opening => some (.opened t.start :: .named s :: below)
    | _ => none
  | .named s :: below =>
    match t.kind with
    | .dot => some (.dotted s :: below)
    | .bracketOpen => some (.bracketName false :: below)
    | .closing => some below
    | .colon => some (.values .braceClose :: below)
    | _ => none
  | .dotted s :: below =>
    match t.kind with
    | .identifier => some (.named s :: below)
    | .key => some (.path true :: below)
    | .opening => some (.opened t.start :: .named s :: below)
    | _ => none
  | .dots :: below =>
    match t.kind with
    | .dot => some (.dots :: below)
    | .bracketOpen => some (.bracketName true :: below)
    | _ => startName t (.path false :: below)
  | .bracketName first :: below => startName t (.bracketEnd first :: below)
  | .bracketEnd first :: below =>
    if t.kind = .bracketClose then some (.path (!first) :: below) else none
  | .path _ :: below =>
    match t.kind with
    | .dot => some (.dotName :: below)
    | .bracketOpen => some (.bracketName false :: below)
    | .closing => some below
    | _ => none
  | .dotName :: below => startName t (.path true :: below)
  | .values close :: below | .commaRest close :: below =>
    if t.kind = close then some below
    else if t.kind = .comma then some (.commaRest close :: below)
    else startValue t (.valueRest close :: below)
  | .valueRest close :: below =>
    if t.kind = close then some below
    else if t.kind = .comma then some (.commaRest close :: below)
    else none
  | .words :: below =>
    if t.kind = .opening then some (.opened t.start :: .words :: below)
    else if Kind.wordParts.contains t.kind then some (.words :: below)
    else advance t below
  | .recordStart :: below =>
    if t.kind = .braceClose then some below
    else if Kind.nameParts.contains t.kind then some (.nameRest false :: below)
    else none
  | .entryName :: below =>
    if Kind.nameParts.contains t.kind then some (.nameRest true :: below) else none
  | .nameRest later :: below =>
    if t.kind = .colon then some (.entryValue later :: below)
    else if Kind.nameParts.contains t.kind then some (.nameRest later :: below)
    else none
  | .entryValue later :: below => startValue t (.entryRest later :: below)
  | .entryRest _ :: below =>
    match t.kind with
    | .comma => some (.entryName :: below)
    | .braceClose => some below
    | _ => none

/-! ## Refusals -/

/-- Why a text is refused. -/
inductive GrammarError
  | unknown (text : List Char)
  | undecided (input : List Char)
  | extraneous (found : Token) (expected : List Kind)
  | mismatched (found : Token) (expected : List Kind)
  | missing (found : Token) (expected : Kind)
deriving DecidableEq, Repr

/-- Characters in a complaint: line breaks and tabs are escaped by a letter. -/
def shownChars (cs : List Char) : String :=
  String.ofList (cs.flatMap fun c =>
    if c = '\n' then ['\\', 'n'] else if c = '\r' then ['\\', 'r']
    else if c = '\t' then ['\\', 't'] else [c])

/-- A token in a complaint. -/
def Token.shown (t : Token) : String :=
  "'" ++ (if t.kind = .ending then Kind.setText [.ending] else shownChars t.text) ++ "'"

/-- The wording of the error. -/
def GrammarError.message : GrammarError → String
  | .unknown text => "token recognition error at: '" ++ shownChars text ++ "'"
  | .undecided input => "no viable alternative at input '" ++ shownChars input ++ "'"
  | .extraneous t expected =>
    "extraneous input " ++ t.shown ++ " expecting " ++ Kind.setText expected
  | .mismatched t expected =>
    "mismatched input " ++ t.shown ++ " expecting " ++ Kind.setText expected
  | .missing t expected => "missing " ++ Kind.setText [expected] ++ " at " ++ t.shown

/-- How a refused token is looked at. -/
inductive Repair
  /-- The token may be one too many. -/
  | drop (expected : List Kind)
  /-- The token is one too many in a run that goes on. -/
  | skip (expected : List Kind)
  /-- The token may be one too many, or one in front of it may be missing. -/
  | insert (expected : Kind)

/-- What could have come next, innermost first. -/
def Frame.repair : Frame → Repair
  | .text | .quoteStart => .drop (.quoteClose :: Kind.texts)
  | .quoteRest => .insert .quoteClose
  | .opened _ | .named _ | .dotted _ => .drop []
  | .dots => .skip ([.dot, .bracketOpen] ++ Kind.pathNames)
  | .bracketName _ | .dotName => .drop Kind.pathNames
  | .bracketEnd _ => .insert .bracketClose
  | .path false => .drop [.dot, .bracketOpen, .closing]
  | .path true => .skip [.dot, .bracketOpen, .closing]
  | .values close => .drop ([close, .comma] ++ Kind.valueStarts)
  | .commaRest close | .valueRest close => .insert close
  | .words | .entryValue _ => .drop Kind.valueStarts
  | .recordStart => .drop (.braceClose :: Kind.nameParts)
  | .entryName => .drop Kind.nameParts
  | .nameRest _ => .insert .colon
  | .entryRest false => .drop [.comma, .braceClose]
  | .entryRest true => .skip [.comma, .braceClose]

/-- The place of an undecided placeholder. -/
def Frame.undecided? : Frame → Option Nat
  | .opened s | .named s | .dotted s => some s
  | _ => none

/-- Whether a token can come next. -/
def admits (stack : List Frame) (t : Token) : Bool := (advance t stack).isSome

/-- The stack without the plain values that end here. -/
def settled (stack : List Frame) : List Frame := stack.dropWhile (· = .words)

/-- What is said of a token that cannot come next, with the token behind it. -/
def refusal (source : List Char) (stack : List Frame) (t next : Token) : GrammarError :=
  match (stack.filterMap Frame.undecided?).getLast? with
  | some start => .undecided ((source.drop start).take (t.start + t.text.length - start))
  | none =>
    match (settled stack).head?.map Frame.repair with
    | some (.skip expected) => .extraneous t expected
    | some (.drop expected) =>
      if next.kind = .unknown then .unknown next.text
      else if expected.contains next.kind then .extraneous t expected
      else .mismatched t expected
    | some (.insert expected) =>
      if next.kind = .unknown then .unknown next.text
      else if next.kind = expected then .extraneous t [expected]
      else if ((advance ⟨expected, t.start, []⟩ stack).map (admits · t)).getD false then
        .missing t expected
      else .mismatched t [expected]
    | none => .mismatched t [.ending]

/-- Reads tokens. -/
def parseTokens (source : List Char) (stack : List Frame) :
    List Token → Except GrammarError Unit
  | [] => .ok ()
  | t :: rest =>
    if t.kind = .unknown then .error (.unknown t.text)
    else
      match advance t stack with
      | some stack => parseTokens source stack rest
      | none => .error (refusal source stack t (rest.headD t))

/-- Reads a text with placeholders. -/
def parse (source : List Char) : Except GrammarError Unit :=
  parseTokens source [.text] (tokens source)

end ChipEight.Placeholder
