/-
  Blocks of Markdown text without other blocks in them.

  * `interrupts`: a line ends the paragraph before it.
  * `readParagraph`, `readTable`: lines of text, up to the line that ends them.
  * `readFenced`, `readIndented`, `readHtml`: lines that are not looked into.
  * `definitionSource`: the lines that a definition may take.

  Each reads a text from the start of the block on, inside the containers that are open,
  and gives back the text from the line on that does not belong to the block.
-/
import CourseSite.Markdown.Block

namespace CourseSite.Markdown

section
variable (extended : Bool) (containers : List Container)

/-! ## Paragraphs -/

/-- The columns of the table that a line is the header of, from the line behind it, and
    the text behind both. -/
def table? (paired : Bool) (line next : List Char) : Option (List Alignment × List Char) :=
  if !extended then none
  else
    (headerColumns? paired line).bind fun count =>
      match enter containers (.start next) with
      | ([], place) => (delimiters? place.rest).filter fun (columns, _) => columns.length = count
      | _ => none

/-- A line starts an HTML block that may stand in the middle of a paragraph. -/
def startsHtml (cs : List Char) : Bool :=
  match cs with
  | '<' :: cs => (blockEnding? cs).isSome || startsDivision cs
  | _ => false

/-- A line other than one of a table ends the paragraph before it.  If the line belongs to
    all open containers, then not every list item does. -/
def interruptsText (current : Bool) (cs : List Char) : Bool :=
  cs.head?.all isLineEnd || (rule? cs).isSome || (heading? cs).isSome || (fence? cs).isSome ||
    cs.head? = some '>' || (isItem cs && (!current || mayInterrupt cs)) || startsHtml cs

/-- A line ends the paragraph before it. -/
def interrupts (current : Bool) (cs : List Char) : Bool :=
  let line := lineRest cs
  interruptsText current cs ||
    (cs.head? = some '|' &&
      match lineEnd? (cs.drop line.length) with
      | some [] | none => false
      | some next => (table? extended containers false line next).isSome)

/-- What lines of text turn out to be. -/
inductive TextKind where
  | paragraph
  | heading (level : Nat)
  | table (columns : List Alignment) (header : List Char)

/-- The kind of some lines, their text, and the text behind them. -/
structure TextBlock where
  kind : TextKind
  source : Source
  rest : List Char

/-- The block of text that starts with a line; `read` holds the lines before it, the last
    glyph first.  A line that is indented like code goes on a paragraph all the same. -/
def readParagraph : Nat → Source → List Char → TextBlock
  | 0, read, text => ⟨.paragraph, read.reverse, text⟩
  | fuel + 1, read, text =>
    let line := lineRest text
    let behind := text.drop line.length
    let next := (lineEnd? behind).getD []
    let table := if read.isEmpty ∧ !behind.isEmpty then table? extended containers true line next
      else none
    let read := (Source.ofChars line).reverse ++ read
    match table, enter containers (.start next) with
    | some (columns, rest), _ => ⟨.table columns line, read.reverse, rest⟩
    | none, (outer, place) =>
      let (missing, inner) := place.skip 4
      let level := if missing ≠ 0 ∧ outer.isEmpty then underline? inner.rest else none
      match level with
      | some (level, rest) => ⟨.heading level, read.reverse, rest⟩
      | none =>
        if (missing ≠ 0 ∧ interrupts extended containers outer.isEmpty inner.rest) ∨
            inner.skipAll.atLineEnd then ⟨.paragraph, read.reverse, next⟩
        else
          let newline := Glyph.newline (lineEnding behind) (next.take place.taken)
          readParagraph fuel (newline :: read) place.rest

/-- The text from a place on that a definition may stand in: every line up to one that ends
    a paragraph, without its indentation. -/
def definitionSource : Nat → List Char → Source
  | 0, _ => []
  | fuel + 1, text =>
    let line := lineRest text
    let behind := text.drop line.length
    let next := (lineEnd? behind).getD []
    let (outer, place) := enter containers (.start next)
    let (missing, inner) := place.skip 4
    let ends := missing ≠ 0 ∧ (interrupts extended containers outer.isEmpty inner.rest ∨
      (outer.isEmpty ∧ (underline? inner.rest).isSome))
    Source.ofChars line ++
      if behind.isEmpty ∨ ends then []
      else
        .newline (lineEnding behind) (next.take inner.taken) :: definitionSource fuel inner.rest

end

section
variable (containers : List Container)

/-! ## Tables -/

/-- The rows of a table with some columns, the last one first, and the text behind them. -/
def readTable (columns : Nat) :
    Nat → List (List (List Char)) → List Char → List (List (List Char)) × List Char
  | 0, rows, text => (rows, text)
  | fuel + 1, rows, text =>
    match enter containers (.start text) with
    | ([], place) =>
      let inner := place.skipAll.rest
      if interruptsText true inner then (rows, text)
      else
        let line := lineRest inner
        readTable columns fuel (cells columns line :: rows)
          ((lineEnd? (inner.drop line.length)).getD [])
    | _ => (rows, text)

/-! ## Lines that are not looked into -/

/-- A line behind the blank columns that are left of a tab, with a line feed for its line
    break.  A carriage return before the last character of a text counts as one. -/
def verbatim (spare : Nat) (line : List Char) : List Char :=
  List.replicate spare ' ' ++ match line.reverse with
    | c :: '\r' :: cs => if c.toNat < 0x80 then (c :: cs).reverse else line
    | _ => line

/-- The lines of code between fences, the last one first, and the text behind them. -/
def readFenced (indent : Nat) (mark : Char) (length : Nat) :
    Nat → List (List Char) → List Char → List (List Char) × List Char
  | 0, lines, text => (lines, text)
  | fuel + 1, lines, text =>
    match enter containers (.start text) with
    | ([], place) =>
      let inner := (place.skip indent).2
      let (missing, close) := inner.skip (4 - indent)
      match if missing ≠ 0 then fenceEnd? mark length close.rest else none with
      | some rest => (lines, (blankLine? rest).getD rest)
      | none =>
        let (line, rest) := nextLine inner.rest
        readFenced indent mark length fuel (verbatim inner.spare line :: lines) rest
    | _ => (lines, text)

/-- The lines of indented code from one of them on, the last one first, whether a blank
    line was read last, and the text behind them.  Blank lines at the end do not belong to
    the code. -/
def readIndented : Nat → List (List Char) → List (List Char) → Bool → Nat → List Char →
    List (List Char) × Bool × List Char
  | 0, lines, _, blank, _, text => (lines, blank, text)
  | fuel + 1, lines, blanks, blank, spare, text =>
    let (line, rest) := nextLine text
    let (lines, blanks) := if blank then (lines, verbatim spare line :: blanks)
      else (verbatim spare line :: (blanks ++ lines), [])
    match enter containers (.start rest) with
    | ([], place) =>
      let (missing, inner) := place.skip 4
      if (missing ≠ 0 ∧ !inner.atLineEnd) ∨ inner.rest.isEmpty then (lines, blank, rest)
      else
        readIndented fuel lines blanks (blankLine? inner.rest).isSome inner.spare inner.rest
    | _ => (lines, blank, rest)

/-- The lines of an HTML block from one of them on, the last one first, and the text behind
    them.  Of a line that ends the block with blanks alone, the containers have taken their
    part. -/
def readHtml (kind : HtmlKind) :
    Nat → List (List Char) → Nat → List Char → List (List Char) × List Char
  | 0, lines, _, text => (lines, text)
  | fuel + 1, lines, spare, text =>
    let (line, rest) := nextLine text
    let lines := verbatim spare line :: lines
    match enter containers (.start rest) with
    | ([], place) =>
      let ends := match kind with
        | .upTo _ => kind.endsOn line
        | _ => place.atLineEnd
      let blank := match kind with
        | .upTo _ => place.rest.isEmpty
        | _ => (blankLine? place.rest).isSome
      if ends then (lines, rest)
      else if blank then (lines, place.rest)
      else readHtml kind fuel lines place.spare place.rest
    | _ => (lines, rest)

end

end CourseSite.Markdown
