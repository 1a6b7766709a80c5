/-
  A place in YAML text, and the character classes of YAML.

  * `Problem`: why a text cannot be read.
  * `Cursor`: the text that is left, with the line and the column reached.
  * `isBreak`, `isBlank`, `endsWord`: line breaks, blanks, and what may follow
    an indicator.
-/

namespace CourseSite.Yaml

/-! ## Problems -/

/-- Why a text cannot be read. -/
inductive Problem where
  | forbiddenCharacter
  | expectedColon
  | sequenceNotAllowed
  | keyNotAllowed
  | valueNotAllowed
  | noTokenStarts
  | expectedName
  | expectedTag
  | expectedTagClosing
  | expectedTagEnd
  | expectedOctet
  | invalidOctet
  | undefinedHandle
  | unknownAnchor
  | invalidDirective
  | unknownDirective
  | duplicateDirective
  | incompatibleVersion
  | unexpectedColon
  | tabInIndentation
  | documentInScalar
  | endInScalar
  | unknownEscape
  | expectedHexadecimal
  | invalidEscapeCode
  | zeroIndentation
  | expectedLineBreak
  | expectedDocumentStart
  | expectedNode
  | expectedEntry
  | expectedKey
  | expectedSequenceEnd
  | expectedMappingEnd
  | severalDocuments
  | duplicateKey
  | emptyTag
  | wrongTag
  | integerRange
  | notAList
  | notAName
  | tooDeep
  | tooManyAliases
deriving DecidableEq

/-- The description of a problem. -/
def Problem.message : Problem → String
  | .forbiddenCharacter => "control characters are not allowed"
  | .expectedColon => "could not find expected ':'"
  | .sequenceNotAllowed => "block sequence entries are not allowed in this context"
  | .keyNotAllowed => "mapping keys are not allowed in this context"
  | .valueNotAllowed => "mapping values are not allowed in this context"
  | .noTokenStarts => "found character that cannot start any token"
  | .expectedName => "did not find expected alphabetic or numeric character"
  | .expectedTag => "did not find expected tag URI"
  | .expectedTagClosing => "did not find the expected '>'"
  | .expectedTagEnd => "did not find expected whitespace or line break"
  | .expectedOctet => "did not find URI escaped octet"
  | .invalidOctet => "found an incorrect UTF-8 octet"
  | .undefinedHandle => "found undefined tag handle"
  | .unknownAnchor => "unknown anchor"
  | .invalidDirective => "found an invalid directive"
  | .unknownDirective => "found unknown directive name"
  | .duplicateDirective => "found duplicate directive"
  | .incompatibleVersion => "found incompatible YAML document"
  | .unexpectedColon => "found unexpected ':'"
  | .tabInIndentation => "found a tab character where indentation is expected"
  | .documentInScalar => "found unexpected document indicator"
  | .endInScalar => "found unexpected end of stream"
  | .unknownEscape => "found unknown escape character"
  | .expectedHexadecimal => "did not find expected hexadecimal number"
  | .invalidEscapeCode => "found invalid Unicode character escape code"
  | .zeroIndentation => "found an indentation indicator equal to 0"
  | .expectedLineBreak => "did not find expected comment or line break"
  | .expectedDocumentStart => "did not find expected document start"
  | .expectedNode => "did not find expected node content"
  | .expectedEntry => "did not find expected '-' indicator"
  | .expectedKey => "did not find expected key"
  | .expectedSequenceEnd => "did not find expected ',' or ']'"
  | .expectedMappingEnd => "did not find expected ',' or '\x7d'"
  | .severalDocuments => "there is more than one document"
  | .duplicateKey => "duplicate entry in a mapping"
  | .emptyTag => "empty YAML tag is not allowed"
  | .wrongTag => "invalid value for its tag"
  | .integerRange => "an integer is out of range"
  | .notAList => "expected a sequence"
  | .notAName => "expected a string"
  | .tooDeep => "recursion limit exceeded"
  | .tooManyAliases => "repetition limit exceeded"

/-! ## Characters -/

/-- The character breaks a line. -/
def isBreak (c : Char) : Bool :=
  c = '\n' || c = '\r' || c = '\u0085' || c = '\u2028' || c = '\u2029'

/-- A space or a tab. -/
def isBlank (c : Char) : Bool := c = ' ' || c = '\t'

/-- The end of the text, a line break or a blank. -/
def endsWord (c : Option Char) : Bool := c.all fun c => isBlank c || isBreak c

/-- The end of the text or a line break. -/
def endsLine (c : Option Char) : Bool := c.all isBreak

/-- The character may stand in YAML text. -/
def isAllowed (c : Char) : Bool :=
  let n := c.toNat
  n = 0x9 || n = 0xA || n = 0xD || (0x20 ≤ n && n ≤ 0x7E) || n = 0x85 ||
    (0xA0 ≤ n && n ≤ 0xFFFD) || 0x10000 ≤ n

/-! ## Cursors -/

/-- The text that is left, and what was read of it: lines, characters of the
    line, and bytes. -/
structure Cursor where
  rest : List Char
  line : Nat
  column : Nat
  bytes : Nat

namespace Cursor

/-- The cursor at the start of a text. -/
def ofChars (cs : List Char) : Cursor := ⟨cs, 0, 0, 0⟩

/-- The next character. -/
def peek (c : Cursor) : Option Char := c.rest.head?

/-- The character at a distance. -/
def peekAt (c : Cursor) (n : Nat) : Option Char := (c.rest.drop n).head?

/-- The cursor behind some characters of the line. -/
def skip (c : Cursor) (n : Nat) : Cursor :=
  let bytes := (c.rest.take n).foldl (fun bytes char => bytes + char.utf8Size) c.bytes
  ⟨c.rest.drop n, c.line, c.column + n, bytes⟩

/-- The cursor behind the characters of a class, none of them a line break. -/
def skipWhile (p : Char → Bool) (c : Cursor) : Cursor := c.skip (c.rest.takeWhile p).length

/-- The line break at the cursor as it is kept in a scalar, and the cursor behind
    it; nothing at the end of the text. -/
def readBreak (c : Cursor) : List Char × Cursor :=
  match c.rest with
  | '\r' :: '\n' :: rest => (['\n'], ⟨rest, c.line + 1, 0, c.bytes + 2⟩)
  | b :: rest =>
    let next : Cursor := ⟨rest, c.line + 1, 0, c.bytes + b.utf8Size⟩
    if b = '\u2028' ∨ b = '\u2029' then ([b], next)
    else if isBreak b then (['\n'], next)
    else ([], c)
  | [] => ([], c)

/-- A line starts with three times the given character and no more of a word. -/
def atMarker (c : Cursor) (mark : Char) : Bool :=
  c.column == 0 && c.rest.take 3 == [mark, mark, mark] && endsWord (c.peekAt 3)

/-- A marker of the start or the end of a document. -/
def atDocumentMarker (c : Cursor) : Bool := c.atMarker '-' || c.atMarker '.'

end Cursor

end CourseSite.Yaml
