/-
  The blocks of a Markdown text, and the outline that they grow in.

  * `Block`: a paragraph, a heading, a list, and so on.
  * `Container`: what blocks stand in; `enter` finds the containers of a line.
  * `Outline`: the blocks read so far, the last ones in containers that are still open.

  A list is loose if a blank line stands between two of its items or between two blocks
  of an item.  The blank line is noted when it is read, and counts when the next block of
  the list begins.
-/
import CourseSite.Markdown.Start
import CourseSite.Markdown.Target

namespace CourseSite.Markdown

/-! ## Blocks -/

/-- A block.  Its text is not looked into yet.  A paragraph or a heading may begin with the
    box of a task, checked or not; a heading tells whether closing signs were cut off its
    text. -/
inductive Block where
  | paragraph (box : Option Bool) (previous : Char) (text : Source)
  | underlined (level : Nat) (box : Option Bool) (previous : Char) (text : Source)
  | heading (level : Nat) (cut : Bool) (text : List Char)
  | rule
  | code (info text : List Char)
  | html (text : List Char)
  | box (checked : Bool)
  | quote (notice : Option Notice) (blocks : List Block)
  | list (start : Option Nat) (tight : Bool) (items : List (List Block))
  | table (columns : List Alignment) (header : List (List Char)) (rows : List (List (List Char)))

/-! ## Containers -/

/-- What blocks stand in.  A list item tells the columns that its contents are indented
    by. -/
inductive Container where
  | quote
  | list
  | item (indent : Nat)

/-- The place behind what a container takes of a line, if the line belongs to it.  A line
    that ends belongs to a list item. -/
def Container.enter? (container : Container) (place : Cursor) : Option Cursor :=
  match container with
  | quote => (place.skip 3).2.quote?
  | list => some place
  | item indent =>
    let (missing, inner) := place.skip indent
    if missing = 0 ∨ inner.atLineEnd then some inner else none

/-- The containers that a line does not belong to, and the place behind what the others
    take.  The outermost container comes first. -/
def enter : List Container → Cursor → List Container × Cursor
  | [], place => ([], place)
  | container :: containers, place =>
    match container.enter? place with
    | some inner => enter containers inner
    | none => (container :: containers, place)

/-! ## Outlines -/

/-- A container that is open, with its contents so far, the last one first. -/
inductive Frame where
  | quote (notice : Option Notice) (blocks : List Block)
  | list (tight : Bool) (mark : Char) (number : Nat) (items : List (List Block))
  | item (indent : Nat) (blocks : List Block)

/-- The container without its contents. -/
def Frame.container : Frame → Container
  | quote _ _ => .quote
  | list _ _ _ _ => .list
  | item indent _ => .item indent

/-- The blocks read so far, the last one first: those in no open container, and the open
    containers, the innermost one first.  `begun` tells that nothing but its mark was read
    of an item, `blank` that a blank line was read last, `box` is a box whose paragraph is
    still to come, and the definitions are kept with the last one first. -/
structure Outline where
  blocks : List Block
  frames : List Frame
  begun : Bool
  blank : Bool
  box : Option Bool
  definitions : List Definition

namespace Outline

/-- No blocks. -/
def empty : Outline := ⟨[], [], false, false, none, []⟩

/-- The open containers, the outermost one first. -/
def containers (outline : Outline) : List Container :=
  outline.frames.reverse.map Frame.container

/-- The outline with one more block. -/
def add (block : Block) (outline : Outline) : Outline :=
  match outline.frames with
  | [] => { outline with blocks := block :: outline.blocks }
  | .quote notice blocks :: frames =>
    { outline with frames := .quote notice (block :: blocks) :: frames }
  | .item indent blocks :: frames =>
    { outline with frames := .item indent (block :: blocks) :: frames }
  | .list tight mark number items :: frames =>
    { outline with frames := .list tight mark number ([block] :: items) :: frames }

/-- The outline with one more open container. -/
def push (frame : Frame) (outline : Outline) : Outline :=
  { outline with frames := frame :: outline.frames }

/-- The outline with its innermost container closed. -/
def pop (outline : Outline) : Outline :=
  match outline.frames with
  | [] => outline
  | .quote notice blocks :: frames =>
    { outline with frames }.add (.quote notice blocks.reverse)
  | .item _ blocks :: .list tight mark number items :: frames =>
    { outline with frames := .list tight mark number (blocks.reverse :: items) :: frames }
  | .item _ blocks :: frames => { outline with frames, blocks := blocks ++ outline.blocks }
  | .list tight mark number items :: frames =>
    let start := if mark = '.' ∨ mark = ')' then some number else none
    { outline with frames, begun := outline.begun && !tight }.add
      (.list start tight items.reverse)

/-- The outline with some of its innermost containers closed. -/
def popAll : Nat → Outline → Outline
  | 0, outline => outline
  | n + 1, outline => popAll n outline.pop

/-- The innermost container is a list. -/
def inList (outline : Outline) : Bool :=
  match outline.frames with
  | .list _ _ _ _ :: _ => true
  | _ => false

/-- The outline in which an item that has begun and that a blank line follows is closed:
    it has no contents. -/
def closeEmptyItem (outline : Outline) : Outline :=
  let closed := match outline.frames with
    | .item _ _ :: _ => if outline.begun && outline.blank then outline.pop else outline
    | _ => outline
  { closed with begun := false }

/-- The list around the innermost container is loose. -/
def loosen (outline : Outline) : Outline :=
  match outline.frames with
  | frame :: .list _ mark number items :: frames =>
    { outline with frames := frame :: .list false mark number items :: frames }
  | _ => outline

/-- The outline in which something other than a list item follows. -/
def closeList (outline : Outline) : Outline :=
  let outline := outline.closeEmptyItem
  let outline := if outline.inList then outline.pop else outline
  { (if outline.blank then outline.loosen else outline) with blank := false }

/-- The outline in which a list item with a mark follows: the item goes on with the list
    before it, or starts one. -/
def openList (mark : Char) (number : Nat) (outline : Outline) : Outline :=
  let outline := outline.closeEmptyItem
  let fresh : Frame := .list true mark number []
  match outline.frames with
  | .list tight other first items :: frames =>
    if other = mark then
      { outline with
        frames := .list (tight && !outline.blank) other first items :: frames
        blank := false }
    else { outline.closeList.push fresh with blank := false }
  | _ => { outline.closeList.push fresh with blank := false }

/-- The outline with a blank line.  An item of which nothing but its mark was read holds
    no more than what stands at its own indentation. -/
def readBlank (outline : Outline) : Outline :=
  match outline.frames with
  | .quote _ _ :: _ => outline
  | .item _ blocks :: frames =>
    { outline with
      frames := if outline.begun then .item 0 blocks :: frames else outline.frames
      blank := true }
  | _ => { outline with blank := true }

end Outline

end CourseSite.Markdown
