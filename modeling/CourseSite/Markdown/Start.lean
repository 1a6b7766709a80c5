/-
  What the start of a line tells about the block that it belongs to.

  * `rule?`, `heading?`, `fence?`, `underline?`: lines that are or start a block.
  * `Cursor.marker?`, `Cursor.quote?`, `Cursor.notice?`, `Cursor.box?`: the marks of list
    items, quotations, notices and tasks.
  * `delimiters?`, `cells`: the lines of a table.
-/
import CourseSite.Markdown.Tag

namespace CourseSite.Markdown

/-! ## Lines that are blocks -/

/-- Three or more equal marks and blanks on a line, and the text behind it. -/
def rule? (cs : List Char) : Option (List Char) :=
  let line := lineRest cs
  let marks := line.filter fun c => !(c = ' ' || c = '\t')
  match line, marks with
  | first :: _, mark :: _ =>
    if first = mark ∧ (mark = '*' ∨ mark = '-' ∨ mark = '_') ∧ 3 ≤ marks.length ∧
        marks.all (· = mark) then lineEnd? (cs.drop line.length)
    else none
  | _, _ => none

/-- The level of a heading with number signs, and the text behind them. -/
def heading? (cs : List Char) : Option (Nat × List Char) :=
  let level := (cs.takeWhile (· = '#')).length
  let rest := cs.drop level
  if level = 0 ∨ 6 < level ∨ !(rest.head?.all fun c => isBlank c || isLineEnd c) then none
  else some (level, rest)

/-- The text of a heading without the number signs that close it, and whether there are
    any.  Only spaces count as blanks here. -/
def headingText (cs : List Char) : Bool × List Char :=
  let trim (p : Char → Bool) (cs : List Char) : List Char := (cs.reverse.dropWhile p).reverse
  let text := trim (· = ' ') (cs.dropWhile isBlank)
  let open_ := trim (· = '#') text
  let bare := trim (· = ' ') open_
  if open_.isEmpty then (true, [])
  else if bare.length < open_.length then (true, bare)
  else (false, text)

/-- The mark of a fence, its length and the text behind it. -/
def fence? (cs : List Char) : Option (Char × Nat × List Char) :=
  match cs with
  | [] => none
  | c :: _ =>
    let length := (cs.takeWhile (· = c)).length
    let rest := cs.drop length
    if (c = '\x60' ∨ c = '~') ∧ 3 ≤ length ∧ !(c = '\x60' && (nextLine rest).1.contains c) then
      some (c, length, rest)
    else none

/-- The text behind a line that closes a fence.  The end of the text closes it too. -/
def fenceEnd? (mark : Char) (length : Nat) (cs : List Char) : Option (List Char) :=
  let marks := cs.takeWhile (· = mark)
  let rest := (cs.drop marks.length).dropWhile (· = ' ')
  if cs.isEmpty then some []
  else if length ≤ marks.length ∧ rest.head?.all isLineEnd then some rest
  else none

/-- The level of the heading that a line of equal marks makes of a paragraph, and the text
    behind the line. -/
def underline? (cs : List Char) : Option (Nat × List Char) :=
  match cs with
  | [] => none
  | c :: _ =>
    let rest := blankLine? (cs.dropWhile (· = c))
    if c = '=' then rest.map (1, ·) else if c = '-' then rest.map (2, ·) else none

/-! ## Marks of containers -/

/-- The value of some digits. -/
def digitsValue (digits : List Char) : Nat :=
  digits.foldl (fun n c => 10 * n + (c.toNat - '0'.toNat)) 0

/-- The number of digits and the last character of the mark of a list item. -/
def mark? (cs : List Char) : Option (Nat × Char) :=
  let digits := (cs.takeWhile Char.isDigit).length
  (cs.drop digits).head?.bind fun c =>
    if digits = 0 then if c = '-' ∨ c = '+' ∨ c = '*' then some (0, c) else none
    else if digits ≤ 9 ∧ (c = '.' ∨ c = ')') then some (digits, c)
    else none

/-- The rest of a line is blank, and so is the line below it. -/
def nothingFollows (cs : List Char) : Bool :=
  (blankLine? cs).any fun below => (blankLine? below).isSome

/-- A list item may start in the middle of a paragraph: something follows its mark on its
    own line or on the next one, and it is the first one if items are numbered. -/
def mayInterrupt (cs : List Char) : Bool :=
  (mark? cs).any fun (digits, _) =>
    (digits = 0 || digitsValue (cs.take digits) = 1) && !nothingFollows (cs.drop (digits + 1))

/-- A list item starts at a place. -/
def isItem (cs : List Char) : Bool :=
  (mark? cs).any fun (digits, _) =>
    (cs.drop (digits + 1)).head?.all fun c => c = ' ' || c = '\t' || isLineEnd c

namespace Cursor

/-- The mark of a list item at a place: its last character, its number, the columns that
    the contents of the item are indented by, and the place of the contents. -/
def marker? (outer : Nat) (place : Cursor) : Option (Char × Nat × Nat × Cursor) :=
  (mark? place.rest).bind fun (digits, c) =>
    let number := digitsValue (place.rest.take digits)
    let (missing, behind) := (place.advance (digits + 1)).skip 1
    let indent := outer + digits + 2
    let (open_, inner) := behind.skip 4
    if (rule? place.rest).isSome ∨ (missing ≠ 0 ∧ !behind.atLineEnd) then none
    else if (blankLine? behind.rest).isSome ∨ open_ = 0 then some (c, number, indent, behind)
    else some (c, number, indent + (4 - open_), inner)

/-- The place behind the mark of a quotation. -/
def quote? (place : Cursor) : Option Cursor :=
  if place.rest.head? = some '>' then some ((place.advance 1).skip 1).2 else none

/-- The box of a task, checked or not, and the place behind it. -/
def box? (place : Cursor) : Option (Bool × Cursor) :=
  let inner := (place.skip 3).2
  match inner.rest with
  | '[' :: c :: ']' :: d :: _ =>
    if (isBlank d || isLineEnd d) && (isBlank c || c = 'x' || c = 'X') then
      some (!isBlank c, inner.advance 3)
    else none
  | _ => none

end Cursor

/-! ## Notices -/

/-- The kind of notice that a quotation is. -/
inductive Notice where
  | note
  | tip
  | important
  | warning
  | caution

namespace Notice

/-- The name of a kind. -/
def name : Notice → String
  | note => "note"
  | tip => "tip"
  | important => "important"
  | warning => "warning"
  | caution => "caution"

/-- The kind that a line announces, and the text behind the line. -/
def start? (cs : List Char) : Option (Notice × List Char) :=
  match cs with
  | '[' :: '!' :: cs =>
    [note, tip, important, warning, caution].findSome? fun kind =>
      (behindName? kind.name cs).bind fun rest =>
        match rest with
        | ']' :: rest => (blankLine? rest).map (kind, ·)
        | _ => none
  | _ => none

end Notice

/-! ## Tables -/

/-- Where the text of a column of a table stands. -/
inductive Alignment where
  | unset
  | left
  | center
  | right

/-- The columns that the rest of a line under a table header sets, and the text behind
    the line: the columns read so far, the alignment of the next one, whether it is still
    untouched, whether it has a dash, and whether there was a bar. -/
def delimitersFrom? (columns : List Alignment) (next : Alignment) (untouched dashed barred : Bool) :
    List Char → Option (List Alignment × List Char)
  | [] => finish []
  | c :: cs =>
    if isLineEnd c then finish (c :: cs)
    else if c = ' ' then delimitersFrom? columns next untouched dashed barred cs
    else if c = '-' then delimitersFrom? columns next false true barred cs
    else if c = ':' then
      let next := match untouched, next with
        | true, .unset => .left
        | false, .left => .center
        | false, .unset => .right
        | _, next => next
      delimitersFrom? columns next false dashed barred cs
    else if c = '|' ∧ dashed then delimitersFrom? (next :: columns) .unset true false true cs
    else none
where
  /-- The columns at the end of the line. -/
  finish (cs : List Char) : Option (List Alignment × List Char) :=
    if !barred ∨ (!untouched ∧ !dashed) then none
    else
      let columns := if untouched then columns else next :: columns
      if columns.isEmpty then none else (lineEnd? cs).map (columns.reverse, ·)

/-- The columns that a line under a table header sets, and the text behind the line. -/
def delimiters? (cs : List Char) : Option (List Alignment × List Char) :=
  let (missing, place) := (Cursor.start cs).skip 4
  if missing = 0 then none
  else
    match place.rest with
    | '|' :: rest => delimitersFrom? [] .unset true false true rest
    | rest => delimitersFrom? [] .unset true false false rest

/-- The number of bars in a line that no backslash hides, and the text behind the last of
    them.  Two backslashes hide nothing if `paired`. -/
def bars (paired : Bool) : List Char → Nat × List Char
  | [] => (0, [])
  | '\\' :: '\\' :: cs => if paired then bars paired cs else bars paired ('\\' :: cs)
  | '\\' :: '|' :: cs => bars paired cs
  | c :: cs =>
    let (count, behind) := bars paired cs
    if c = '|' then (count + 1, if count = 0 then cs else behind) else (count, behind)

/-- The number of columns that a line has as the header of a table, if it has a bar. -/
def headerColumns? (paired : Bool) (line : List Char) : Option Nat :=
  let (count, behind) := bars paired line
  let inner := if (line.dropWhile isBlank).head? = some '|' then count - 1 else count
  if count = 0 then none else some (if behind.all isBlank then inner else inner + 1)

/-- The characters of a cell up to the next bar, and the line from there on. -/
def cell : List Char → List Char × List Char
  | [] => ([], [])
  | '\\' :: '|' :: cs => let (text, rest) := cell cs; ('\\' :: '|' :: text, rest)
  | '\\' :: '\\' :: '|' :: cs => let (text, rest) := cell cs; ('\\' :: '\\' :: '|' :: text, rest)
  | '\\' :: '\\' :: cs => let (text, rest) := cell cs; ('\\' :: '\\' :: text, rest)
  | c :: cs => if c = '|' then ([], c :: cs) else let (text, rest) := cell cs; (c :: text, rest)

/-- The cells of a line. -/
def cellsFrom : Nat → List Char → List (List Char)
  | 0, _ => []
  | fuel + 1, line =>
    let line := (if line.head? = some '|' then line.tail else line).dropWhile isBlank
    if line.isEmpty then []
    else
      let (text, rest) := cell line
      text :: cellsFrom fuel rest

/-- As many cells of a line as there are columns; what is missing is empty. -/
def cells (columns : Nat) (line : List Char) : List (List Char) :=
  let found := cellsFrom (line.length + 1) line
  (found ++ List.replicate (columns - found.length) []).take columns

end CourseSite.Markdown
