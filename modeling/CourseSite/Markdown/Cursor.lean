/-
  Places in the lines of a Markdown text, and the columns that blanks take.

  * `lineEnd?`, `lineEnding`, `blankLine?`, `nextLine`: where lines end.
  * `Cursor`: a place in a line, with what is left of the text from there on.
  * `Cursor.skip`: some blank columns skipped, which may end within a tab.
-/

namespace CourseSite.Markdown

/-! ## Lines -/

/-- A blank within a line. -/
def isBlank (c : Char) : Bool := c = ' ' || c = '\t' || c = '\x0b' || c = '\x0c'

/-- A character that ends a line. -/
def isLineEnd (c : Char) : Bool := c = '\n' || c = '\r'

/-- The text behind the line end that a text starts with.  A text that is over ends its
    line. -/
def lineEnd? : List Char → Option (List Char)
  | [] => some []
  | '\n' :: cs => some cs
  | '\r' :: '\n' :: cs => some cs
  | '\r' :: cs => some cs
  | _ => none

/-- The characters of the line end that a text starts with. -/
def lineEnding : List Char → List Char
  | '\n' :: _ => ['\n']
  | '\r' :: '\n' :: _ => ['\r', '\n']
  | '\r' :: _ => ['\r']
  | _ => []

/-- The text behind a line with nothing but blanks on it. -/
def blankLine? (cs : List Char) : Option (List Char) := lineEnd? (cs.dropWhile isBlank)

/-- The characters before the end of the line. -/
def lineRest (cs : List Char) : List Char := cs.takeWhile (!isLineEnd ·)

/-- The characters up to a line feed, and the text behind it. -/
def nextLine : List Char → List Char × List Char
  | [] => ([], [])
  | c :: cs =>
    if c = '\n' then ([c], cs)
    else
      let (line, rest) := nextLine cs
      (c :: line, rest)

/-! ## Places -/

/-- A place in a line: the text from there on, the column seen from the last tab stop,
    the columns of a tab that are still to be used, the character before it, and the number
    of characters from the start of the line. -/
structure Cursor where
  rest : List Char
  column : Nat
  spare : Nat
  previous : Char
  taken : Nat

namespace Cursor

/-- The start of a line. -/
def start (text : List Char) : Cursor := ⟨text, 0, 0, '\n', 0⟩

/-- Up to `n` blank columns skipped: how many were missing, and the place behind them. -/
def skipFrom (n column : Nat) (previous : Char) (taken : Nat) : List Char → Nat × Cursor
  | [] => (n, ⟨[], column, 0, previous, taken⟩)
  | c :: cs =>
    if n = 0 then (0, ⟨c :: cs, column, 0, previous, taken⟩)
    else if c = ' ' then skipFrom (n - 1) (column + 1) c (taken + 1) cs
    else if c = '\t' then
      let width := 4 - column % 4
      if width ≤ n then skipFrom (n - width) 0 c (taken + 1) cs
      else (0, ⟨cs, 0, width - n, c, taken + 1⟩)
    else (n, ⟨c :: cs, column, 0, previous, taken⟩)

/-- Up to `n` blank columns skipped, the spare ones first: how many were missing, and the
    place behind them. -/
def skip (n : Nat) (place : Cursor) : Nat × Cursor :=
  if n ≤ place.spare then (0, { place with spare := place.spare - n })
  else skipFrom (n - place.spare) place.column place.previous place.taken place.rest

/-- All spaces and tabs skipped. -/
def skipAll (place : Cursor) : Cursor :=
  let blanks := place.rest.takeWhile fun c => c = ' ' || c = '\t'
  { rest := place.rest.drop blanks.length
    column := place.column + blanks.length
    spare := 0
    previous := blanks.getLast?.getD place.previous
    taken := place.taken + blanks.length }

/-- The place behind some characters. -/
def advance (n : Nat) (place : Cursor) : Cursor :=
  { place with
    rest := place.rest.drop n
    column := place.column + n
    previous := (place.rest.take n).getLast?.getD place.previous
    taken := place.taken + n }

/-- The line ends here. -/
def atLineEnd (place : Cursor) : Bool := place.rest.head?.all isLineEnd

end Cursor

end CourseSite.Markdown
