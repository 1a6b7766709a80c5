/-
  HTML tags in Markdown text.

  * `openTag?`, `closeTag?`: the text behind a tag.
  * `declaration?`: the text behind a comment, an instruction, a declaration or a section
    of character data.
  * `HtmlKind`: the kinds of HTML blocks, by what ends them; `HtmlKind.start?` tells the
    kind of the block that a line starts.
-/
import CourseSite.Markdown.Source

namespace CourseSite.Markdown

/-- The text behind the first occurrence of a pattern. -/
def behind? (pattern : List Char) : List Char → Option (List Char)
  | [] => if pattern.isEmpty then some [] else none
  | c :: cs =>
    if pattern.isPrefixOf (c :: cs) then some ((c :: cs).drop pattern.length)
    else behind? pattern cs

/-! ## Tags -/

/-- The name of a tag at the start of a text. -/
def tagName (source : Source) : List Char :=
  if source.head?.any (·.is Char.isAlpha) then source.run fun c => c.isAlphanum || c = '-' else []

/-- The text behind the closing quotation mark of a value. -/
def quotedValueEnd? (mark : Char) : Source → Option Source
  | [] => none
  | glyph :: source =>
    if glyph.is (· = mark) then some source else quotedValueEnd? mark source

/-- A character of a value without quotation marks. -/
def isBareValueChar (c : Char) : Bool :=
  !(isLineEnd c || [' ', '"', '\'', '=', '<', '>', '\x60'].contains c)

/-- The text behind the value of an attribute. -/
def attributeValue? : Source → Option Source
  | .char '"' :: source => quotedValueEnd? '"' source
  | .char '\'' :: source => quotedValueEnd? '\'' source
  | glyph :: source =>
    if glyph.is isBareValueChar then some (source.dropWhile (·.is isBareValueChar)) else none
  | [] => none

/-- A character of the name of an attribute. -/
def isAttributeChar (c : Char) : Bool :=
  c.isAlphanum || c = '_' || c = ':' || c = '.' || c = '-'

/-- The text behind the attributes of a tag and its closing bracket.  A gap stands before
    each attribute. -/
def attributes? : Nat → Source → Option Source
  | 0, _ => none
  | fuel + 1, source =>
    match source.dropWhile Glyph.isGap with
    | .char '>' :: rest => some rest
    | .char '/' :: .char '>' :: rest => some rest
    | glyph :: rest =>
      if rest.length + 1 = source.length ∨
          !(glyph.is fun c => c.isAlpha || c = '_' || c = ':') then none
      else
        let rest := rest.dropWhile (·.is isAttributeChar)
        match rest.dropWhile Glyph.isGap with
        | .char '=' :: value =>
          (attributeValue? (value.dropWhile Glyph.isGap)).bind (attributes? fuel)
        | _ => attributes? fuel rest
    | [] => none

/-- The text behind an opening tag, whose bracket was read. -/
def openTag? (source : Source) : Option Source :=
  let name := tagName source
  if name.isEmpty then none else attributes? (source.length + 1) (source.drop name.length)

/-- The text behind a closing tag, whose bracket and slash were read. -/
def closeTag? (source : Source) : Option Source :=
  let name := tagName source
  if name.isEmpty then none
  else
    match (source.drop name.length).dropWhile (·.is isBlank) with
    | .char '>' :: rest => some rest
    | _ => none

/-- The text behind a section of character data, up to the first brackets in it. -/
def characterData? (cs : List Char) : Option (List Char) :=
  let brackets := cs.dropWhile (· ≠ ']')
  match brackets.dropWhile (· = ']') with
  | '>' :: rest => if brackets.head? = some ']' then some rest else none
  | _ => none

/-- The text behind what an opening bracket with an exclamation mark or a question mark
    starts. -/
def declaration? : List Char → Option (List Char)
  | '!' :: '-' :: '-' :: rest => behind? ['-', '-', '>'] ('-' :: '-' :: rest)
  | '?' :: rest => behind? ['?', '>'] rest
  | '!' :: '[' :: 'C' :: 'D' :: 'A' :: 'T' :: 'A' :: '[' :: rest => characterData? rest
  | '!' :: c :: rest => if c.isAlpha then behind? ['>'] rest else none
  | _ => none

/-- The HTML that an opening bracket starts, and the text behind it.  What containers
    take of a line does not belong to a tag. -/
def html? (source : Source) : Option (List Char × Source) :=
  match source with
  | .char '!' :: _ | .char '?' :: _ =>
    (declaration? source.raw).map fun rest =>
      let html := source.raw.take (source.raw.length - rest.length)
      (html, source.dropRaw html.length)
  | _ =>
    let tag := match source with
      | .char '/' :: source => closeTag? source
      | source => openTag? source
    tag.map fun rest => ((source.before rest).flatMap bare, rest)
where
  /-- A glyph without what containers take. -/
  bare : Glyph → List Char
    | .char c => [c]
    | .newline ending _ => ending

/-! ## Blocks -/

/-- What ends an HTML block: a text on one of its lines, or a blank line.  A lone tag
    does not start a block in the middle of a paragraph. -/
inductive HtmlKind where
  | upTo (ending : List Char)
  | division
  | loneTag

/-- The names of tags whose contents are not looked at. -/
def verbatimNames : List String := ["pre", "style", "script", "textarea"]

/-- The names of the tags that start a section. -/
def sectionNames : List String :=
  ["address", "article", "aside", "base", "basefont", "blockquote", "body", "caption", "center",
   "col", "colgroup", "dd", "details", "dialog", "dir", "div", "dl", "dt", "fieldset",
   "figcaption", "figure", "footer", "form", "frame", "frameset", "h1", "h2", "h3", "h4", "h5",
   "h6", "head", "header", "hr", "html", "iframe", "legend", "li", "link", "main", "menu",
   "menuitem", "nav", "noframes", "ol", "optgroup", "option", "p", "param", "search", "section",
   "summary", "table", "tbody", "td", "tfoot", "th", "thead", "title", "tr", "track", "ul"]

/-- A text in lower case, ASCII letters only. -/
def lowered (cs : List Char) : List Char := cs.map Char.toLower

/-- The text behind a name in any case. -/
def behindName? (name : String) (cs : List Char) : Option (List Char) :=
  if lowered (cs.take name.length) = name.toList then some (cs.drop name.length) else none

/-- The end of the block that a text starts whose opening bracket was read, if a text on
    one of its lines ends it. -/
def blockEnding? (cs : List Char) : Option (List Char) :=
  let verbatim := verbatimNames.find? fun name =>
    (behindName? name cs).any fun rest =>
      rest.head?.all fun c => isBlank c || isLineEnd c || c = '>'
  match verbatim with
  | some name => some (("</" ++ name ++ ">").toList)
  | none =>
    if ['!', '-', '-'].isPrefixOf cs then some ['-', '-', '>']
    else if cs.head? = some '?' then some ['?', '>']
    else if "![CDATA[".toList.isPrefixOf cs then some [']', ']', '>']
    else if cs.head? = some '!' ∧ cs.tail.head?.any Char.isAlpha then some ['>']
    else none

/-- A text whose opening bracket was read starts a section. -/
def startsDivision (cs : List Char) : Bool :=
  let cs := if cs.head? = some '/' then cs.tail else cs
  let name := cs.takeWhile Char.isAlphanum
  sectionNames.contains (String.ofList (lowered name)) &&
    match cs.drop name.length with
    | [] => true
    | '/' :: '>' :: _ => true
    | c :: _ => c = ' ' || c = '\t' || isLineEnd c || c = '>'

/-- The kind of the HTML block that a text starts, whose opening bracket was read. -/
def HtmlKind.start? (cs : List Char) : Option HtmlKind :=
  match blockEnding? cs with
  | some ending => some (.upTo ending)
  | none =>
    if startsDivision cs then some .division
    else
      let line := Source.ofChars (lineRest cs)
      let rest := match line with
        | .char '/' :: line => closeTag? line
        | line => openTag? line
      if rest.any (·.all (·.is isBlank)) then some .loneTag else none

/-- The line ends the block. -/
def HtmlKind.endsOn (kind : HtmlKind) (line : List Char) : Bool :=
  match kind with
  | upTo ending => (behind? ending line).isSome
  | _ => false

end CourseSite.Markdown
