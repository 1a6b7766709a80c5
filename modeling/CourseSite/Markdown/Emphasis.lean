/-
  Emphasis in the text of a Markdown block.

  * `Inline`: text, emphasis, a link, and so on.
  * `Piece`: a part of a text that is being read; `runPiece` is a run of marks between two
    characters.
  * `contents`: the pieces with the runs paired.

  A run that can close emphasis is paired with the nearest run before it that can open it
  and that fits.  The runs between the two are text.
-/
import CourseSite.Markdown.Source
import CourseSite.Text.Letter

namespace CourseSite.Markdown

/-- What stands in a text. -/
inductive Inline where
  | text (cs : List Char)
  | softBreak
  | hardBreak
  | code (cs : List Char)
  | html (cs : List Char)
  | emphasis (children : List Inline)
  | strong (children : List Inline)
  | struck (children : List Inline)
  | link (target title : List Char) (children : List Inline)
  | image (target title : List Char) (children : List Inline)

/-! ## Pieces -/

/-- A run of marks: how many are left, how many there were, and whether it can open or
    close emphasis. -/
structure Run where
  mark : Char
  count : Nat
  total : Nat
  opens : Bool
  closes : Bool

/-- A part of a text that is being read. -/
inductive Piece where
  | done (content : Inline)
  | text (cs : List Char)
  | run (run : Run)
  /-- An opening bracket with the text behind it; one in a link opens no other. -/
  | bracket (isImage active : Bool) (behind : Source)
  /-- A line break with a backslash before it. -/
  | escapedBreak
  /-- Blanks that are part of the text before them, if it stays text. -/
  | tail (cs : List Char)

/-- The text of a bracket that opens nothing. -/
def bracketText (isImage : Bool) : List Char := if isImage then ['!', '['] else ['[']

/-- What a piece is if nothing else comes of it. -/
def Piece.inline : Piece → Inline
  | done content => content
  | text cs | tail cs => .text cs
  | run marks => .text (List.replicate marks.count marks.mark)
  | bracket isImage _ _ => .text (bracketText isImage)
  | escapedBreak => .hardBreak

/-! ## Runs -/

/-- A run of marks before a character can open emphasis.  Struck text may start within a
    word if it has two marks. -/
def canOpen (mark : Char) (count : Nat) (previous : Char) (next : Option Char) : Bool :=
  next.any fun next =>
    !Text.isBlank next &&
      ((mark = '*' && !Text.isPunctuation next) || (mark = '~' && 1 < count) ||
        Text.isBlank previous || Text.isPunctuation previous)

/-- A run of marks behind a character can close emphasis.  Struck text may end behind a
    mark that is text itself. -/
def canClose (mark : Char) (count : Nat) (previous : Char) (next : Option Char) : Bool :=
  !Text.isBlank previous &&
    (((mark = '*' || (mark = '~' && 1 < count)) && !Text.isPunctuation previous) ||
      (mark = '~' && previous = '~') ||
      next.all fun next => Text.isBlank next || Text.isPunctuation next)

/-- A run of marks between two characters; it is text if it can do nothing.  Text is struck
    by one or two marks. -/
def runPiece (mark : Char) (count : Nat) (previous : Char) (next : Option Char) : Piece :=
  let opens := canOpen mark count previous next
  let closes := canClose mark count previous next
  if (!opens && !closes) || (mark = '~' && 2 < count) then .text (List.replicate count mark)
  else .run ⟨mark, count, count, opens, closes⟩

/-- A run can be paired with an earlier one. -/
def Run.fits (closer opener : Run) : Bool :=
  opener.opens && opener.mark = closer.mark &&
    (closer.mark != '~' || closer.total = opener.total) &&
    (!((closer.opens && closer.closes) || (opener.opens && opener.closes)) ||
      (closer.total + opener.total) % 3 != 0 || closer.total % 3 = 0)

/-- The nearest run that a closing run fits, among pieces with the last one first: the
    pieces behind it in order, the run, and the pieces before it. -/
def opener? (closer : Run) : List Piece → List Piece → Option (List Piece × Run × List Piece)
  | _, [] => none
  | inner, piece :: pieces =>
    match piece with
    | .run run =>
      if closer.fits run then some (inner, run, pieces) else opener? closer (piece :: inner) pieces
    | _ => opener? closer (piece :: inner) pieces

/-- A run with fewer marks, if any are left. -/
def Run.drop (used : Nat) (run : Run) : List Piece :=
  if run.count ≤ used then [] else [.run { run with count := run.count - used }]

/-- The pieces with no run that could open struck text. -/
def settleStruck (pieces : List Piece) : List Piece :=
  pieces.map fun piece => match piece with
    | .run run => if run.mark = '~' then .text (List.replicate run.count '~') else piece
    | piece => piece

/-- A closing run that fits no run before it: one that strikes text keeps the runs before
    it from being paired later. -/
def unpaired (run : Run) (read : List Piece) : List Piece :=
  let read := if run.mark = '~' then settleStruck read else read
  if run.opens then .run run :: read else .text (List.replicate run.count run.mark) :: read

/-- The part of a text that two runs mark, and the number of marks that they use. -/
def marked (closer opener : Run) (children : List Inline) : Nat × Inline :=
  if closer.mark = '~' then (closer.count, .struck children)
  else if 2 ≤ closer.count ∧ 2 ≤ opener.count then (2, .strong children)
  else (1, .emphasis children)

/-- The pieces with emphasis in place of the runs that pair; `read` holds the pieces
    already looked at, the last one first. -/
def pairRuns : Nat → List Piece → List Piece → List Piece
  | 0, read, rest => read.reverse ++ rest
  | _ + 1, read, [] => read.reverse
  | fuel + 1, read, piece :: rest =>
    match piece with
    | .run closer =>
      if !closer.closes then pairRuns fuel (piece :: read) rest
      else
        match opener? closer [] read with
        | none => pairRuns fuel (unpaired closer read) rest
        | some (inner, opener, before) =>
          let (used, content) := marked closer opener (inner.map Piece.inline)
          pairRuns fuel (.done content :: (opener.drop used ++ before)) (closer.drop used ++ rest)
    | .tail _ =>
      match read with
      | .run _ :: _ => pairRuns fuel (piece :: read) rest
      | .text _ :: _ | .bracket _ _ _ :: _ => pairRuns fuel (piece :: read) rest
      | _ => pairRuns fuel read rest
    | _ => pairRuns fuel (piece :: read) rest

/-- The number of marks in some pieces, and of the other pieces. -/
def marksIn (pieces : List Piece) : Nat :=
  pieces.foldl (fun marks piece => match piece with
    | .run run => marks + run.count + 1
    | _ => marks + 1) 0

/-- A piece is a run. -/
def Piece.isRun : Piece → Bool
  | run _ => true
  | _ => false

/-- The contents of pieces.  A backslash behind which the text of a link with emphasis ends
    is no line break. -/
def contents (pieces : List Piece) : List Inline :=
  let paired := pairRuns (2 * marksIn pieces + 1) [] pieces
  match paired.getLast? with
  | some .escapedBreak =>
    (if pieces.any Piece.isRun then paired.dropLast ++ [.text ['\\']] else paired).map Piece.inline
  | _ => paired.map Piece.inline

end CourseSite.Markdown
