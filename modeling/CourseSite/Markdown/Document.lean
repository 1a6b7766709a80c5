/-
  The blocks of a Markdown text.

  * `openContainers`: the containers that start on a line.
  * `readBlock`: the next block, or the next blank line.
  * `Outline.ofText`: the whole text.
-/
import CourseSite.Markdown.Leaf

namespace CourseSite.Markdown

section
variable (extended : Bool)

/-! ## Containers -/

/-- The place where the paragraph goes on that a line is part of, if it does.  A line may
    go on a paragraph without the containers that the paragraph stands in.  Blanks are
    skipped unless there is nothing else on the line: they count for its line break. -/
def goesOn? (outline : Outline) (text : List Char) : Option Cursor :=
  let (outer, place) := enter outline.containers (.start text)
  let (missing, inner) := place.skip 4
  if missing ≠ 0 ∧ interrupts extended outline.containers outer.isEmpty inner.rest then none
  else some (if inner.skipAll.atLineEnd then place else inner.skipAll)

/-- The containers that start at a place, and the place behind their marks, or the text
    behind the line if the line holds nothing else. -/
def openContainers : Nat → Outline → Cursor → Outline × (List Char ⊕ Cursor)
  | 0, outline, place => (outline, .inr place)
  | fuel + 1, outline, place =>
    let (missing, inner) := place.skip 4
    if missing = 0 then (outline, .inr place)
    else
      match inner.marker? (4 - missing), inner.quote? with
      | some (mark, number, indent, behind), _ =>
        let outline := (outline.openList mark number).push (.item indent [])
        match blankLine? behind.rest, if extended then behind.box? else none with
        | some rest, _ => ({ outline with begun := true }, .inl rest)
        | none, some (checked, behind) =>
          match blankLine? behind.rest with
          | some rest => ({ outline.add (.box checked) with begun := true }, .inl rest)
          | none => openContainers fuel { outline with box := some checked } behind
        | none, none => openContainers fuel outline behind
      | none, some behind =>
        let outline := outline.closeList
        match if extended then Notice.start? behind.rest else none with
        | some (notice, rest) =>
          let outline := outline.push (.quote (some notice) [])
          match goesOn? extended outline rest with
          | some place => (outline, .inr place)
          | none => (outline, .inl rest)
        | none => openContainers fuel (outline.push (.quote none [])) behind
      | none, none => (outline, .inr place)

/-! ## Blocks -/

/-- The outline with the paragraph, the heading or the table that starts at a place, and
    the text behind it. -/
def readText (outline : Outline) (place : Cursor) : Outline × List Char :=
  let containers := outline.containers
  let fuel := place.rest.length + 1
  let block := readParagraph extended containers fuel [] place.rest
  let outline' := { outline with box := none }
  match block.kind with
  | .paragraph => (outline'.add (.paragraph outline.box place.previous block.source), block.rest)
  | .heading level =>
    (outline'.add (.underlined level outline.box place.previous block.source), block.rest)
  | .table columns header =>
    let (rows, rest) := readTable containers columns.length fuel [] block.rest
    (outline'.add (.table columns (cells columns.length header) rows.reverse), rest)

/-- The outline with the definitions at a place, and with the text behind them.  What stands
    behind a definition goes on the paragraph that the definition is part of. -/
def readDefinitions : Nat → Outline → Cursor → Outline × List Char
  | 0, outline, place => (outline, place.rest)
  | fuel + 1, outline, place =>
    let source := if place.rest.head? = some '[' then
        definitionSource extended outline.containers (place.rest.length + 1) place.rest
      else []
    match definition? source with
    | none => readText extended outline place
    | some (found, behind) =>
      let outline := { outline with definitions := found :: outline.definitions }
      let rest := place.rest.drop (Source.raw (source.before behind)).length
      let next := (blankLine? rest).getD rest
      match goesOn? extended outline next with
      | some place => readDefinitions fuel outline place
      | none => (outline, next)

/-- The outline with the block that starts at a place, and the text behind it. -/
def readLeaf (outline : Outline) (place : Cursor) : Outline × List Char :=
  let outline := outline.closeList
  let containers := outline.containers
  let (missing, inner) := place.skip 4
  let fuel := place.rest.length + 1
  if missing = 0 then
    let (lines, blank, rest) :=
      readIndented containers fuel [] [] false inner.spare inner.rest
    ({ outline.add (.code [] lines.reverse.flatten) with blank }, rest)
  else
    let indent := 4 - missing
    let html := match inner.rest with
      | '<' :: cs => HtmlKind.start? cs
      | _ => none
    match html, rule? inner.rest, heading? inner.rest, fence? inner.rest with
    | some kind, _, _, _ =>
      let (lines, rest) := readHtml containers kind fuel [] (max place.spare indent) inner.rest
      (outline.add (.html lines.reverse.flatten), rest)
    | none, some rest, _, _ => (outline.add .rule, rest)
    | none, none, some (level, behind), _ =>
      let line := lineRest behind
      let (cut, text) := headingText line
      (outline.add (.heading level cut text), (lineEnd? (behind.drop line.length)).getD [])
    | none, none, none, some (mark, length, behind) =>
      let (line, rest) := nextLine (behind.dropWhile isBlank)
      let info := (line.reverse.dropWhile fun c => isBlank c || isLineEnd c).reverse
      let (lines, rest) := readFenced containers indent mark length fuel [] rest
      (outline.add (.code (plain false info) lines.reverse.flatten), rest)
    | none, none, none, none => readDefinitions extended fuel outline inner

/-- The outline with the next line or the next block of a text, and the text behind it. -/
def readBlock (outline : Outline) (text : List Char) : Outline × List Char :=
  let (outer, place) := enter outline.containers (.start text)
  let outline := outline.popAll outer.length
  match openContainers extended ((lineRest text).length + 1) outline place with
  | (outline, .inl rest) => (outline, rest)
  | (outline, .inr place) =>
    match blankLine? place.rest with
    | some rest => (outline.readBlank, rest)
    | none => readLeaf extended outline place

/-- The outline with the blocks of a text. -/
def readBlocks : Nat → Outline → List Char → Outline
  | 0, outline, _ => outline
  | _ + 1, outline, [] => outline
  | fuel + 1, outline, text =>
    let (outline, rest) := readBlock extended outline text
    readBlocks fuel outline rest

/-- The outline of a text, with all its containers closed. -/
def Outline.ofText (text : String) : Outline :=
  let outline := readBlocks extended (text.length + 1) Outline.empty text.toList
  outline.popAll outline.frames.length

end

end CourseSite.Markdown
