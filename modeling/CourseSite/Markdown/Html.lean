/-
  The HTML of a Markdown text.

  * `Inline.write`, `Block.write`: what a part of a text adds to the HTML before it.
  * `toHtml`: the HTML of a text.

  A block starts on a line of its own.  In a list whose items follow each other without
  blank lines the paragraphs are written without their tags.
-/
import CourseSite.Markdown.Document
import CourseSite.Markdown.Inline

namespace CourseSite.Markdown

/-! ## Quoting -/

/-- A text between tags: three characters become entities. -/
def quoted (cs : List Char) : String :=
  String.ofList (cs.flatMap fun c => match c with
    | '&' => "&amp;".toList
    | '<' => "&lt;".toList
    | '>' => "&gt;".toList
    | c => [c])

/-- A text in an attribute: the quotation marks become entities as well. -/
def quotedValue (cs : List Char) : String :=
  String.ofList (cs.flatMap fun c => match c with
    | '&' => "&amp;".toList
    | '<' => "&lt;".toList
    | '>' => "&gt;".toList
    | '"' => "&quot;".toList
    | '\'' => "&#39;".toList
    | c => [c])

/-- The characters that stand for themselves in the target of a link. -/
def isTargetChar (c : Char) : Bool :=
  c.isAlphanum || "!#$%()*+,-./:;=?@_~".toList.contains c

/-- The target of a link: what cannot stand in one is written as its bytes. -/
def quotedTarget (cs : List Char) : String :=
  String.ofList (cs.flatMap fun c =>
    if isTargetChar c then [c]
    else if c = '&' then "&amp;".toList
    else if c = '\'' then "&#x27;".toList
    else (String.utf8EncodeChar c).flatMap fun byte => '%' :: digits byte.toNat)
where
  /-- The two hexadecimal digits of a byte. -/
  digits (n : Nat) : List Char := (Nat.toDigits 16 (256 + n)).tail.map Char.toUpper

/-- The title of a link or an image as an attribute, unless there is none. -/
def titleAttribute (title : List Char) : String :=
  if title.isEmpty then "" else " title=\"" ++ quotedValue title ++ "\""

/-! ## Texts -/

mutual

/-- The text of a part without its marks, which stands for an image. -/
def Inline.bare : Inline → List Char
  | .text cs | .code cs | .html cs => cs
  | .softBreak | .hardBreak => [' ']
  | .emphasis children | .strong children | .struck children => bareAll children
  | .link _ _ children | .image _ _ children => bareAll children

/-- The text of some parts without their marks. -/
def bareAll : List Inline → List Char
  | [] => []
  | part :: parts => part.bare ++ bareAll parts

end

mutual

/-- The HTML with a part of a text added. -/
def Inline.write (out : String) : Inline → String
  | .text cs => out ++ quoted cs
  | .softBreak => out ++ "\n"
  | .hardBreak => out ++ "<br />\n"
  | .code cs => out ++ "<code>" ++ quoted cs ++ "</code>"
  | .html cs => out ++ String.ofList cs
  | .emphasis children => writeInlines (out ++ "<em>") children ++ "</em>"
  | .strong children => writeInlines (out ++ "<strong>") children ++ "</strong>"
  | .struck children => writeInlines (out ++ "<del>") children ++ "</del>"
  | .link target title children =>
    writeInlines (out ++ "<a href=\"" ++ quotedTarget target ++ "\"" ++ titleAttribute title ++ ">")
      children ++ "</a>"
  | .image target title children =>
    out ++ "<img src=\"" ++ quotedTarget target ++ "\" alt=\"" ++ quotedValue (bareAll children) ++
      "\"" ++ titleAttribute title ++ " />"

/-- The HTML with the parts of a text added. -/
def writeInlines (out : String) : List Inline → String
  | [] => out
  | part :: parts => writeInlines (part.write out) parts

end

/-! ## Blocks -/

/-- The HTML up to the start of a line. -/
def freshLine (out : String) : String :=
  if out.isEmpty || out.endsWith "\n" then out else out ++ "\n"

/-- The box of a task. -/
def boxTag (checked : Bool) : String :=
  if checked then "<input disabled=\"\" type=\"checkbox\" checked=\"\"/>\n"
  else "<input disabled=\"\" type=\"checkbox\"/>\n"

/-- The box of a task, if there is one. -/
def boxText (box : Option Bool) : String := (box.map boxTag).getD ""

/-- The style of a cell. -/
def Alignment.style : Alignment → String
  | unset => ""
  | left => " style=\"text-align: left\""
  | center => " style=\"text-align: center\""
  | right => " style=\"text-align: right\""

/-- The tag that opens code in the language that its fence names first. -/
def codeTag (info : List Char) : String :=
  let language := info.takeWhile (· ≠ ' ')
  if language.isEmpty then "<pre><code>"
  else "<pre><code class=\"language-" ++ quotedValue language ++ "\">"

/-- The tag that opens a list, from the number of its first item. -/
def listTag : Option Nat → String
  | none => "<ul>\n"
  | some 1 => "<ol>\n"
  | some start => "<ol start=\"" ++ toString start ++ "\">\n"

/-- The tag that opens a quotation. -/
def quoteTag : Option Notice → String
  | none => "<blockquote>\n"
  | some notice => "<blockquote class=\"markdown-alert-" ++ notice.name ++ "\">\n"

section
variable (extended : Bool) (definitions : List Definition)

/-- The HTML with the contents of a text added. -/
def writeText (out : String) (previous : Char) (text : Source) : String :=
  writeInlines out (Inline.parse ⟨extended, definitions, false, .dropped⟩ previous text)

/-- The HTML with a heading added. -/
def writeHeading (out : String) (level : Nat) (contents : String → String) : String :=
  let tag := "h" ++ toString level ++ ">"
  contents (freshLine out ++ "<" ++ tag) ++ "</" ++ tag ++ "\n"

/-- The HTML with the cells of a row added. -/
def writeRow (tag : String) (out : String) : List Alignment → List (List Char) → String
  | column :: columns, text :: row =>
    let cell := Inline.parse ⟨extended, definitions, true, .dropped⟩ ' ' (Source.ofChars text)
    let out := writeInlines (out ++ "<" ++ tag ++ column.style ++ ">") cell
    writeRow tag (out ++ "</" ++ tag ++ ">") columns row
  | _, _ => out

/-- The HTML with a table added. -/
def writeTable (columns : List Alignment) (header : List (List Char))
    (rows : List (List (List Char))) (out : String) : String :=
  let head := writeRow extended definitions "th" (out ++ "<table><thead><tr>") columns header
  rows.foldl (fun out row =>
      writeRow extended definitions "td" (out ++ "<tr>") columns row ++ "</tr>\n")
    (head ++ "</tr></thead><tbody>\n") ++ "</tbody></table>\n"

mutual

/-- The HTML with a block added, in a list without blank lines a paragraph without its
    tags. -/
def Block.write (tight : Bool) (out : String) : Block → String
  | .paragraph box previous text =>
    if tight then writeText extended definitions (out ++ boxText box) previous text
    else
      writeText extended definitions (freshLine out ++ "<p>" ++ boxText box) previous text ++
        "</p>\n"
  | .underlined level box previous text =>
    writeHeading out level fun out =>
      writeText extended definitions (out ++ boxText box) previous text
  | .heading level cut text =>
    let manner : Manner := ⟨extended, definitions, false, if cut then .kept else .attached⟩
    writeHeading out level fun out =>
      writeInlines out (Inline.parse manner ' ' (Source.ofChars text))
  | .rule => freshLine out ++ "<hr />\n"
  | .code info text => freshLine out ++ codeTag info ++ quoted text ++ "</code></pre>\n"
  | .html text => out ++ String.ofList text
  | .box checked => out ++ boxTag checked
  | .quote notice blocks =>
    writeBlocks false (freshLine out ++ quoteTag notice) blocks ++ "</blockquote>\n"
  | .list start tight items =>
    writeItems tight (freshLine out ++ listTag start) items ++
      (if start.isSome then "</ol>\n" else "</ul>\n")
  | .table columns header rows => writeTable extended definitions columns header rows out

/-- The HTML with some blocks added. -/
def writeBlocks (tight : Bool) (out : String) : List Block → String
  | [] => out
  | block :: blocks => writeBlocks tight (block.write tight out) blocks

/-- The HTML with the items of a list added. -/
def writeItems (tight : Bool) (out : String) : List (List Block) → String
  | [] => out
  | item :: items =>
    writeItems tight (writeBlocks tight (freshLine out ++ "<li>") item ++ "</li>\n") items

end
end

/-- The HTML of a Markdown text.  Tables, struck text, tasks and notices are part of the
    extended language only. -/
def toHtml (extended : Bool) (text : String) : String :=
  let outline := Outline.ofText extended text
  writeBlocks extended outline.definitions.reverse false "" outline.blocks.reverse

end CourseSite.Markdown
