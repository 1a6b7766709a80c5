/-
  What stands in the text of a Markdown block.

  * `Manner`: how a text is read: with which definitions, in a cell or not, and what
    becomes of the blanks at its end.
  * `Inline.parse`: the contents of a text.

  A text is read from left to right into pieces.  A closing bracket turns the pieces
  behind the opening one into a link; what is left of the marks of emphasis is
  paired at the end.
-/
import CourseSite.Markdown.Emphasis
import CourseSite.Markdown.Tag
import CourseSite.Markdown.Target

namespace CourseSite.Markdown

/-- What becomes of the blanks at the end of a text: they are no part of it, they belong to
    what stands before them if that is text or a tag, or they are text. -/
inductive FinalBlanks where
  | dropped
  | attached
  | kept

/-- How a text is read. -/
structure Manner where
  extended : Bool
  definitions : List Definition
  inCell : Bool
  blanks : FinalBlanks

/-! ## Code spans -/

/-- The text between two runs of backticks of one length, and the text behind it. -/
def codeSpan? (length : Nat) : Nat → Source → Option (Source × Source)
  | 0, _ => none
  | _ + 1, [] => none
  | fuel + 1, glyph :: source =>
    if glyph.is (· = '\x60') then
      let run := (glyph :: source).takeWhile (·.is (· = '\x60'))
      let rest := (glyph :: source).drop run.length
      if run.length = length then some ([], rest)
      else (codeSpan? length fuel rest).map fun (text, rest) => (run ++ text, rest)
    else (codeSpan? length fuel source).map fun (text, rest) => (glyph :: text, rest)

/-- The characters of a code span, with a space for each character of a line break. -/
def codeChars (inCell : Bool) : Source → List Char
  | [] => []
  | .newline ending _ :: source => ending.map (fun _ => ' ') ++ codeChars inCell source
  | .char '\\' :: .char '|' :: source =>
    (if inCell then ['|'] else ['\\', '|']) ++ codeChars inCell source
  | .char c :: source => c :: codeChars inCell source

/-- The text of a code span: one space at both ends is left out unless there are only
    spaces. -/
def codeText (cs : List Char) : List Char :=
  if cs.head? = some ' ' ∧ cs.getLast? = some ' ' ∧ cs.any (· ≠ ' ') then cs.tail.dropLast else cs

/-! ## Angle brackets -/

/-- The text is an address with a scheme. -/
def isAddress (cs : List Char) : Bool :=
  let scheme := cs.takeWhile fun c => c.isAlphanum || c = '+' || c = '.' || c = '-'
  let rest := cs.drop scheme.length
  scheme.head?.any Char.isAlpha && 2 ≤ scheme.length && scheme.length ≤ 32 &&
    rest.head? = some ':' && rest.all fun c => 0x20 < c.toNat && c != '<'

/-- The text is a mail address. -/
def isMail (cs : List Char) : Bool :=
  let name := cs.takeWhile (· != '@')
  let isName (c : Char) : Bool := c.isAlphanum || ".!#$%&'*+/=?^_\x60\x7b|\x7d~-".toList.contains c
  let isPart (part : List Char) : Bool :=
    !part.isEmpty && part.length ≤ 63 && part.all (fun c => c.isAlphanum || c = '-') &&
      part.head? != some '-' && part.getLast? != some '-'
  !name.isEmpty && name.all isName && cs.length > name.length &&
    (Text.split (· = '.') (cs.drop (name.length + 1))).all isPart

/-- The link that a text between angle brackets is, if it is an address. -/
def autolink? (cs : List Char) : Option Inline :=
  if isAddress cs then some (.link cs [] [.text cs])
  else if isMail cs then some (.link ("mailto:".toList ++ cs) [] [.text cs])
  else none

/-- What an opening angle bracket starts, an address or a tag, and the text behind it. -/
def angle? (source : Source) : Option (Inline × Source) :=
  let inside := source.run fun c => c != '<' && c != '>'
  let link := match source.drop inside.length with
    | .char '>' :: behind => (autolink? inside).map fun link => (link, behind)
    | _ => none
  link <|> (html? source).map fun (html, rest) => (.html ('<' :: html), rest)

/-! ## Brackets -/

/-- The pieces behind the nearest opening bracket in order, the bracket, and the pieces
    before it. -/
def bracket? : List Piece → List Piece → Option (List Piece × (Bool × Bool × Source) × List Piece)
  | _, [] => none
  | inner, piece :: pieces =>
    match piece with
    | .bracket isImage active behind => some (inner, (isImage, active, behind), pieces)
    | _ => bracket? (piece :: inner) pieces

/-- The pieces without further links around them. -/
def deactivate (pieces : List Piece) : List Piece :=
  pieces.map fun piece => match piece with
    | .bracket false _ behind => .bracket false false behind
    | piece => piece

/-- What a closing bracket leads to: a target with a title, and the text behind.  Without
    one, the closing bracket of a label that was looked up in vain may be told by the
    length of the text behind it. -/
inductive Lead where
  | found (target title : List Char) (rest : Source)
  | missed (tried : Option Nat)

/-- What a closing bracket leads to, from the text behind the opening one and the text
    behind itself.  `tried` marks the bracket of a label that was looked up before.  A
    bracket right behind opens a second label, with a backslash before it too. -/
def lead (manner : Manner) (tried : Option Nat) (behind rest : Source) : Lead :=
  let named (label : String) (rest : Source) (tried : Option Nat) : Lead :=
    match Definition.find? manner.definitions label with
    | some found => .found found.target found.title rest
    | none => .missed tried
  let own (rest' : Source) : Lead :=
    if tried = some rest.length then .missed tried
    else
      match label? manner.inCell behind with
      | some (label, after) =>
        if after.length = rest.length then named label rest' tried else .missed tried
      | none => .missed tried
  let inline := match rest with
    | .char '(' :: inner => inlineTarget? manner.inCell inner
    | _ => none
  let second : Source := match rest with
    | .char '\\' :: .char '[' :: inner => .char '[' :: inner
    | rest => rest
  match inline, second with
  | some (target, title, rest), _ => .found target title rest
  | none, .char '[' :: .char ']' :: rest => own rest
  | none, .char '[' :: inner =>
    match label? manner.inCell inner with
    | some (label, after) => named label after (some after.length)
    | none => own rest
  | none, _ => own rest

/-! ## Reading -/

/-- The state of reading: the pieces so far, the last one first, the character before, and
    the bracket of a label that was looked up in vain. -/
structure Reading where
  pieces : List Piece
  previous : Char
  tried : Option Nat

namespace Reading

/-- Some text is read that ends in a character. -/
def text (cs : List Char) (previous : Char) (reading : Reading) : Reading :=
  { reading with pieces := .text cs :: reading.pieces, previous }

/-- A piece is read that ends in a character. -/
def piece (piece : Piece) (previous : Char) (reading : Reading) : Reading :=
  { reading with pieces := piece :: reading.pieces, previous }

/-- A closing bracket is read: the pieces and the text behind what it closes. -/
def close (manner : Manner) (rest : Source) (reading : Reading) : Reading × Source :=
  match bracket? [] reading.pieces with
  | none => (reading.text [']'] ']', rest)
  | some (inner, (isImage, active, behind), before) =>
    let undone := { reading with
      pieces := .text [']'] :: (inner.reverse ++ .text (bracketText isImage) :: before)
      previous := ']' }
    if !active then (undone, rest)
    else
      match lead manner reading.tried behind rest with
      | .missed tried => ({ undone with tried }, rest)
      | .found target title rest =>
        let children := contents inner
        let link : Piece := .done (if isImage then .image target title children
          else .link target title children)
        ({ reading with
            pieces := link :: (if isImage then before else deactivate before)
            previous := ']' }, rest)

/-- The blanks at the end of a text are read. -/
def final (manner : Manner) (cs : List Char) (reading : Reading) : Reading :=
  match manner.blanks, reading.pieces with
  | .kept, _ => reading.text cs ' '
  | .attached, .text _ :: _ | .attached, .done (.html _) :: _ => reading.text cs ' '
  | .attached, .run _ :: _ | .attached, .bracket _ _ _ :: _ => reading.piece (.tail cs) ' '
  | _, _ => reading

end Reading

/-- The character may be more than text. -/
def isSpecial (c : Char) : Bool := isBlank c || "\\\x60<&![]*_~".toList.contains c

/-- The character is a mark of emphasis. -/
def isMark (extended : Bool) (c : Char) : Bool := c = '*' || c = '_' || (extended && c = '~')

/-- A line break with the blanks before it is read. -/
def readBreak (blanks : Nat) (lead : List Char) (reading : Reading) : Reading :=
  reading.piece (.done (if 2 ≤ blanks then .hardBreak else .softBreak)) (lead.getLast?.getD '\n')

/-- A backslash is read: what comes of it, and the text behind that. -/
def readBackslash (source : Source) (reading : Reading) (manner : Manner) : Reading × Source :=
  match source with
  | .newline _ lead :: rest =>
    (reading.piece .escapedBreak (lead.getLast?.getD '\n'), rest.dropWhile Glyph.isSpace)
  | .char '\\' :: .char '|' :: rest =>
    if manner.inCell then (reading.text ['|'] '|', rest)
    else (reading.text ['\\'] '\\', .char '|' :: rest)
  | .char c :: rest =>
    if Text.isAsciiPunctuation c then (reading.text [c] c, rest)
    else (reading.text ['\\'] '\\', source)
  | [] => (reading.text ['\\'] '\\', [])

/-- The next part of a text that starts with a character is read, and the text behind it. -/
def readPart (manner : Manner) (c : Char) (source : Source) (reading : Reading) :
    Reading × Source :=
  let asText := (reading.text [c] c, source)
  if isBlank c then
    let blanks := c :: source.run isBlank
    match source.drop (blanks.length - 1) with
    | [] => (reading.final manner blanks, [])
    | .newline _ lead :: rest =>
      (readBreak blanks.length lead reading, rest.dropWhile Glyph.isSpace)
    | rest => (reading.text blanks (blanks.getLast?.getD c), rest)
  else if c = '\\' then readBackslash source reading manner
  else if c = '\x60' then
    let ticks := c :: source.run (· = c)
    let rest := source.drop (ticks.length - 1)
    match codeSpan? ticks.length (rest.length + 1) rest with
    | some (text, rest) =>
      (reading.piece (.done (.code (codeText (codeChars manner.inCell text)))) c, rest)
    | none => (reading.text ticks c, rest)
  else if c = '<' then
    match if source.head?.any (·.is (· = '\\')) then none else angle? source with
    | some (found, rest) => (reading.piece (.done found) '>', rest)
    | none => asText
  else if c = '&' then
    let reference := source.run fun c => c.isAlphanum || c = '#' || c = ';'
    match reference? reference with
    | some (found, rest) =>
      (reading.piece (.done (.text found)) ';', source.drop (reference.length - rest.length))
    | none => asText
  else if c = '!' ∧ source.head?.any (·.is (· = '[')) then
    (reading.piece (.bracket true true source.tail) '[', source.tail)
  else if c = '[' then (reading.piece (.bracket false true source) c, source)
  else if c = ']' then reading.close manner source
  else if isMark manner.extended c then
    let count := (source.run (· = c)).length + 1
    let rest := source.drop (count - 1)
    let next := match rest with
      | .char d :: _ => some d
      | .newline _ _ :: _ => some '\n'
      | [] => none
    match runPiece c count reading.previous next with
    | .text cs => (reading.text cs c, rest)
    | piece => (reading.piece piece c, rest)
  else
    let text := source.run (!isSpecial ·)
    (reading.text (c :: text) (text.getLast?.getD c), source.drop text.length)

/-- The pieces of a text. -/
def read (manner : Manner) : Nat → Source → Reading → List Piece
  | 0, _, reading => reading.pieces
  | _ + 1, [], reading => reading.pieces
  | fuel + 1, .newline _ lead :: source, reading =>
    read manner fuel (source.dropWhile Glyph.isSpace) (readBreak 0 lead reading)
  | fuel + 1, .char c :: source, reading =>
    let (reading, rest) := readPart manner c source reading
    read manner fuel rest reading

/-- What stands in a text behind a character. -/
def Inline.parse (manner : Manner) (previous : Char) (source : Source) : List Inline :=
  contents (read manner (source.length + 1) source ⟨[], previous, none⟩).reverse

end CourseSite.Markdown
