/-
  The tokens of YAML text: scalars, indicators, anchors, aliases and tags, and the begin
  and end of block collections, which the indentation shows.

  * `Token`: one token.
  * `Scanner`: the state between two tokens.  `Scanner.next` reads one token; a
    `:` makes a key of the candidate in front of it, so that a token may be
    placed behind others already read.
  * `Token.scan`: all tokens of a text.
-/
import CourseSite.Yaml.Property
import CourseSite.Yaml.Scalar

namespace CourseSite.Yaml

/-! ## Tokens -/

/-- A token.  Block collections are opened by the indentation, and closed by
    `blockEnd`.  Anchors are known by numbers; a tag is written out, its handle replaced by
    what it is short for. -/
inductive Token where
  | directive
  | documentStart
  | documentEnd
  | blockSequence
  | blockMapping
  | blockEnd
  | openSequence
  | closeSequence
  | openMapping
  | closeMapping
  | entry
  | comma
  | key
  | value
  | anchor (number : Nat)
  /-- An alias of the anchor with the number. -/
  | reference (number : Nat)
  | tag (tag : Octets)
  | scalar (text : String) (plain : Bool)
deriving DecidableEq

/-! ## The state of the scanner -/

/-- A token that becomes a key if a `:` follows it on its line: how many tokens
    stand in front of it, and where it is. -/
structure Candidate where
  place : Nat
  required : Bool
  line : Nat
  column : Nat
  bytes : Nat

/-- The state between two tokens.

    * `tokens` are the tokens read, the last one first.
    * `indents` are the columns of the open block collections, the innermost first.
    * `keys` holds the candidate of every open flow collection, the innermost
      first, and last the candidate of the block context.
    * `anchors` are the names of anchors read, with the number that each stands for now.
    * `versioned` says whether a directive gave the version, and `handles` is what
      directives made handles short for. -/
structure Scanner where
  cursor : Cursor
  tokens : List Token := []
  indents : List Int := []
  keyAllowed : Bool := true
  keys : List (Option Candidate) := [none]
  anchors : List (String × Nat) := []
  versioned : Bool := false
  handles : List (String × Octets) := []

namespace Scanner

/-- The state at the start of a text. -/
def ofChars (cs : List Char) : Scanner := { cursor := Cursor.ofChars cs }

/-- The scanner is inside a flow collection. -/
def inFlow (s : Scanner) : Bool := 1 < s.keys.length

/-- The column of the innermost block collection, or -1. -/
def indent (s : Scanner) : Int := s.indents.headD (-1)

/-- The state with one more token. -/
def push (s : Scanner) (token : Token) : Scanner := { s with tokens := token :: s.tokens }

/-- The state with a token placed behind the first `place` tokens. -/
def insertAt (s : Scanner) (place : Nat) (token : Token) : Scanner :=
  let behind := s.tokens.length - place
  { s with tokens := s.tokens.take behind ++ token :: s.tokens.drop behind }

/-- The state with the cursor moved on. -/
def skip (s : Scanner) (n : Nat) : Scanner := { s with cursor := s.cursor.skip n }

/-! ### Indentation -/

/-- The block collections right of a column are closed. -/
def closeBlocks (column : Int) : List Int → List Token → List Int × List Token
  | indent :: indents, tokens =>
    if column < indent then closeBlocks column indents (.blockEnd :: tokens)
    else (indent :: indents, tokens)
  | [], tokens => ([], tokens)

/-- In block context, the collections right of a column are closed. -/
def unindent (s : Scanner) (column : Int) : Scanner :=
  if s.inFlow then s
  else
    let (indents, tokens) := closeBlocks column s.indents s.tokens
    { s with indents := indents, tokens := tokens }

/-- In block context, a collection right of the innermost one is opened by a token
    behind the first `place` tokens. -/
def indentTo (s : Scanner) (column : Nat) (place : Nat) (token : Token) : Scanner :=
  if s.inFlow || (column : Int) ≤ s.indent then s
  else { s.insertAt place token with indents := (column : Int) :: s.indents }

/-! ### Candidates for keys -/

/-- A candidate is out of reach on a later line or more than 1024 bytes on. -/
def isStale (s : Scanner) (candidate : Candidate) : Bool :=
  candidate.line < s.cursor.line || candidate.bytes + 1024 < s.cursor.bytes

/-- The candidates out of reach are given up; one that had to be a key is an error. -/
def dropStale (s : Scanner) : Except Problem Scanner :=
  if s.keys.any fun key => key.any fun candidate => s.isStale candidate && candidate.required then
    .error .expectedColon
  else .ok { s with keys := s.keys.map fun key => key.filter (!s.isStale ·) }

/-- The innermost candidate is given up. -/
def dropKey (s : Scanner) : Except Problem Scanner :=
  match s.keys with
  | some candidate :: keys =>
    if candidate.required then .error .expectedColon else .ok { s with keys := none :: keys }
  | _ => .ok s

/-- The token to be read may become a key. -/
def saveKey (s : Scanner) : Except Problem Scanner :=
  if s.keyAllowed then
    let candidate : Candidate :=
      ⟨s.tokens.length, !s.inFlow && s.indent == (s.cursor.column : Int), s.cursor.line,
        s.cursor.column, s.cursor.bytes⟩
    s.dropKey.map fun s => { s with keys := some candidate :: s.keys.tail }
  else .ok s

/-! ### Blanks and comments -/

/-- The state behind blanks, comments and line breaks.  A tab does not indent: where
    a block key may start it is not skipped.  A byte order mark at the start of a
    line is skipped, but holds a column. -/
def skipGap : Nat → Scanner → Scanner
  | 0, s => s
  | fuel + 1, s =>
    let c := if s.cursor.column = 0 ∧ s.cursor.peek = some '\uFEFF' then s.cursor.skip 1
      else s.cursor
    let c := c.skipWhile fun ch => ch = ' ' || ((s.inFlow || !s.keyAllowed) && ch = '\t')
    let c := if c.peek = some '#' then c.skipWhile (!isBreak ·) else c
    if c.peek.any isBreak then
      skipGap fuel { s with cursor := c.readBreak.2, keyAllowed := s.keyAllowed || !s.inFlow }
    else { s with cursor := c }

/-! ### Names -/

/-- The state that knows an anchor.  Its number is that of the names known before, so that an
    anchor may share its number with a later one if its name was known. -/
def know (s : Scanner) (name : String) : Scanner :=
  { s with anchors := (name, s.anchors.length) :: s.anchors.filter (·.1 != name) }

/-- The number of an anchor. -/
def anchorNumber? (s : Scanner) (name : String) : Option Nat :=
  (s.anchors.find? (·.1 == name)).map (·.2)

/-- What handles are short for without any directive. -/
def commonHandles : List (String × Octets) :=
  [("", []), ("!", Property.ofChars ['!']), ("!!", Property.ofChars "tag:yaml.org,2002:".toList)]

/-- What a handle is short for. -/
def handleStart? (s : Scanner) (handle : String) : Option Octets :=
  ((s.handles ++ commonHandles).find? (·.1 == handle)).map (·.2)

/-- The state in which a directive is in effect.  The version is 1.1 or 1.2; nothing is said
    twice. -/
def obey (s : Scanner) : Property.Directive → Except Problem Scanner
  | .version major minor =>
    if s.versioned then .error .duplicateDirective
    else if major = 1 ∧ (minor = 1 ∨ minor = 2) then .ok { s with versioned := true }
    else .error .incompatibleVersion
  | .handle name start =>
    if s.handles.any (·.1 == name) then .error .duplicateDirective
    else .ok { s with handles := (name, start) :: s.handles }

/-! ### The tokens one by one -/

/-- The line of a directive. -/
def directive (s : Scanner) : Except Problem Scanner := do
  let s ← (s.unindent (-1)).dropKey
  let (directive, cursor) ← Property.directive s.cursor
  let s ← s.obey directive
  return { s.push .directive with cursor := cursor, keyAllowed := false }

/-- The marker of a document's start or end. -/
def documentMarker (s : Scanner) (token : Token) : Except Problem Scanner :=
  (s.unindent (-1)).dropKey.map fun s => { (s.push token).skip 3 with keyAllowed := false }

/-- The opening bracket of a flow collection. -/
def openFlow (s : Scanner) (token : Token) : Except Problem Scanner :=
  s.saveKey.map fun s =>
    { (s.push token).skip 1 with keyAllowed := true, keys := none :: s.keys }

/-- The closing bracket of a flow collection. -/
def closeFlow (s : Scanner) (token : Token) : Except Problem Scanner :=
  s.dropKey.map fun s =>
    { (s.push token).skip 1 with
      keyAllowed := false, keys := if s.inFlow then s.keys.tail else s.keys }

/-- The comma of a flow collection. -/
def comma (s : Scanner) : Except Problem Scanner :=
  s.dropKey.map fun s => { (s.push .comma).skip 1 with keyAllowed := true }

/-- The dash in front of an entry of a block sequence. -/
def entry (s : Scanner) : Except Problem Scanner :=
  if !s.inFlow && !s.keyAllowed then .error .sequenceNotAllowed
  else
    (s.indentTo s.cursor.column s.tokens.length .blockSequence).dropKey.map fun s =>
      { (s.push .entry).skip 1 with keyAllowed := true }

/-- The question mark in front of a key. -/
def explicitKey (s : Scanner) : Except Problem Scanner :=
  if !s.inFlow && !s.keyAllowed then .error .keyNotAllowed
  else
    (s.indentTo s.cursor.column s.tokens.length .blockMapping).dropKey.map fun s =>
      { (s.push .key).skip 1 with keyAllowed := !s.inFlow }

/-- The colon in front of a value.  A candidate becomes the key. -/
def value (s : Scanner) : Except Problem Scanner :=
  match s.keys with
  | some candidate :: keys =>
    let s := (s.insertAt candidate.place .key).indentTo candidate.column candidate.place
      .blockMapping
    .ok { (s.push .value).skip 1 with keyAllowed := false, keys := none :: keys }
  | _ =>
    if !s.inFlow && !s.keyAllowed then .error .valueNotAllowed
    else
      let s := s.indentTo s.cursor.column s.tokens.length .blockMapping
      .ok { (s.push .value).skip 1 with keyAllowed := !s.inFlow }

/-- An anchor. -/
def anchor (s : Scanner) : Except Problem Scanner := do
  let s ← s.saveKey
  let (name, cursor) ← Property.anchorName s.cursor
  let s := (s.push (.anchor s.anchors.length)).know name
  return { s with cursor := cursor, keyAllowed := false }

/-- An alias, of an anchor in front of it. -/
def reference (s : Scanner) : Except Problem Scanner := do
  let s ← s.saveKey
  let (name, cursor) ← Property.anchorName s.cursor
  match s.anchorNumber? name with
  | none => throw .unknownAnchor
  | some number => return { s.push (.reference number) with cursor := cursor, keyAllowed := false }

/-- A tag.  A blank or a line break follows it, or a comma in a flow collection. -/
def tag (s : Scanner) : Except Problem Scanner := do
  let s ← s.saveKey
  let (handle, text, cursor) ← Property.tag s.cursor
  if !(endsWord cursor.peek || (s.inFlow && cursor.peek = some ',')) then throw .expectedTagEnd
  match s.handleStart? handle with
  | none => throw .undefinedHandle
  | some start =>
    return { s.push (.tag (start ++ text)) with cursor := cursor, keyAllowed := false }

/-- The state behind a scalar. -/
def scalar (s : Scanner) (plain : Bool) (text : List Char) (cursor : Cursor) (keyAllowed : Bool) :
    Scanner :=
  { s.push (.scalar (String.ofList text) plain) with cursor := cursor, keyAllowed := keyAllowed }

/-- A block scalar. -/
def blockScalar (s : Scanner) (folded : Bool) : Except Problem Scanner := do
  let s ← s.dropKey
  let (text, cursor) ← Scalar.block folded s.indent s.cursor
  return s.scalar false text cursor true

/-- A quoted scalar. -/
def quotedScalar (s : Scanner) (single : Bool) : Except Problem Scanner := do
  let s ← s.saveKey
  let (text, cursor) ← Scalar.quoted single s.cursor
  return s.scalar false text cursor false

/-- A plain scalar.  A key may follow it only on another line. -/
def plainScalar (s : Scanner) : Except Problem Scanner := do
  let s ← s.saveKey
  let (text, cursor, broken) ← Scalar.plain s.inFlow s.indent s.cursor
  return s.scalar true text cursor broken

/-- The characters with a meaning at the start of a token. -/
def indicators : List Char :=
  ['-', '?', ':', ',', '[', ']', '\x7b', '\x7d', '#', '&', '*', '!', '|', '>', '\'', '"', '%',
   '@', '\x60']

/-- A plain scalar starts at the cursor: no indicator, or a `-`, `?` or `:` that is
    part of a word. -/
def startsPlain (s : Scanner) (c : Char) : Bool :=
  !(isBlank c || isBreak c || indicators.contains c) ||
    (c = '-' && !((s.cursor.peekAt 1).any isBlank)) ||
    (!s.inFlow && (c = '?' || c = ':') && !(endsWord (s.cursor.peekAt 1)))

/-- The state behind the token at the cursor, where a character is left. -/
def token (s : Scanner) (c : Char) : Except Problem Scanner :=
  if s.cursor.column = 0 ∧ c = '%' then s.directive
  else if s.cursor.atMarker '-' then s.documentMarker .documentStart
  else if s.cursor.atMarker '.' then s.documentMarker .documentEnd
  else if c = '[' then s.openFlow .openSequence
  else if c = '\x7b' then s.openFlow .openMapping
  else if c = ']' then s.closeFlow .closeSequence
  else if c = '\x7d' then s.closeFlow .closeMapping
  else if c = ',' then s.comma
  else if c = '-' ∧ endsWord (s.cursor.peekAt 1) then s.entry
  else if c = '?' ∧ (s.inFlow ∨ endsWord (s.cursor.peekAt 1)) then s.explicitKey
  else if c = ':' ∧ (s.inFlow ∨ endsWord (s.cursor.peekAt 1)) then s.value
  else if c = '*' then s.reference
  else if c = '&' then s.anchor
  else if c = '!' then s.tag
  else if c = '|' ∧ !s.inFlow then s.blockScalar false
  else if c = '>' ∧ !s.inFlow then s.blockScalar true
  else if c = '\'' then s.quotedScalar true
  else if c = '"' then s.quotedScalar false
  else if s.startsPlain c then s.plainScalar
  else .error .noTokenStarts

/-- The state behind the next token, or nothing at the end of the text. -/
def next (s : Scanner) : Except Problem (Option Scanner) := do
  let s ← (skipGap (s.cursor.rest.length + 1) s).dropStale
  match s.cursor.peek with
  | none => return none
  | some c => (s.unindent s.cursor.column).token c

/-- The tokens up to the end of the text. -/
def finish (s : Scanner) : Except Problem (List Token) :=
  ((skipGap (s.cursor.rest.length + 1) s).unindent (-1)).dropKey.map (·.tokens.reverse)

/-- The tokens from a state on. -/
def run : Nat → Scanner → Except Problem (List Token)
  | 0, s => s.finish
  | fuel + 1, s => do
    match ← s.next with
    | some s => run fuel s
    | none => s.finish

end Scanner

/-- The tokens of a text. -/
def Token.scan (text : String) : Except Problem (List Token) :=
  if text.toList.all isAllowed then
    Scanner.run (text.toList.length + 1) (Scanner.ofChars text.toList)
  else .error .forbiddenCharacter

end CourseSite.Yaml
