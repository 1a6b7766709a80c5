/-
  The three written forms of YAML scalars.

  * `Gap`: blanks and line breaks between two words of a scalar; `Gap.fold` is
    what they stand for: one line break is a blank, further ones are kept.
  * `plain`, `quoted`, `block`: a scalar at the cursor, with the cursor behind
    it.
-/
import CourseSite.Text.Digits
import CourseSite.Yaml.Cursor

namespace CourseSite.Yaml.Scalar

/-! ## Folding -/

/-- Blanks within a line, or a first line break and the ones behind it. -/
structure Gap where
  blanks : List Char
  first : List Char
  more : List Char
  broken : Bool

/-- No gap. -/
def Gap.none : Gap := ⟨[], [], [], false⟩

/-- The characters that a gap stands for. -/
def Gap.fold (gap : Gap) : List Char :=
  if gap.broken then
    if gap.first.head? = some '\n' then (if gap.more.isEmpty then [' '] else gap.more)
    else gap.first ++ gap.more
  else gap.blanks

/-- The blanks and line breaks at the cursor.  Behind a line break a tab left of
    `indent` is refused, if there is such a limit. -/
def readGap (indent : Option Int) : Nat → Cursor → Gap → Except Problem (Cursor × Gap)
  | 0, c, gap => .ok (c, gap)
  | fuel + 1, c, gap =>
    match c.peek with
    | some ch =>
      if isBlank ch then
        if gap.broken then
          if ch = '\t' ∧ indent.any (fun limit => (c.column : Int) < limit) then
            .error .tabInIndentation
          else readGap indent fuel (c.skip 1) gap
        else readGap indent fuel (c.skip 1) { gap with blanks := gap.blanks ++ [ch] }
      else if isBreak ch then
        let (kept, next) := c.readBreak
        if gap.broken then readGap indent fuel next { gap with more := gap.more ++ kept }
        else readGap indent fuel next { gap with blanks := [], first := kept, broken := true }
      else .ok (c, gap)
    | none => .ok (c, gap)

/-! ## Plain scalars -/

/-- The character delimits flow collections. -/
def isFlowIndicator (c : Char) : Bool :=
  c = ',' || c = '[' || c = ']' || c = '\x7b' || c = '\x7d'

/-- The characters of one word of a plain scalar. -/
def plainWord (flow : Bool) : List Char → Except Problem (List Char)
  | [] => .ok []
  | c :: cs =>
    if isBlank c || isBreak c then .ok []
    else if flow && c = ':' && cs.head?.any (fun next => isFlowIndicator next || next = '?') then
      .error .unexpectedColon
    else if (c = ':' && endsWord cs.head?) || (flow && isFlowIndicator c) then .ok []
    else (plainWord flow cs).map (c :: ·)

/-- The words of a plain scalar behind `text` and a gap, and whether the scalar
    ends behind a line break. -/
def plainFrom (flow : Bool) (indent : Int) :
    Nat → Cursor → List Char → Gap → Except Problem (List Char × Cursor × Bool)
  | 0, c, text, gap => .ok (text, c, gap.broken)
  | fuel + 1, c, text, gap =>
    if c.atDocumentMarker || c.peek = some '#' then .ok (text, c, gap.broken)
    else
      match plainWord flow c.rest with
      | .error e => .error e
      | .ok word =>
        let (text, gap) :=
          if word.isEmpty then (text, gap) else (text ++ gap.fold ++ word, Gap.none)
        let c := c.skip word.length
        if !(endsWord c.peek) || c.peek.isNone then .ok (text, c, gap.broken)
        else
          match readGap (some indent) (c.rest.length + 1) c { gap with blanks := [] } with
          | .error e => .error e
          | .ok (c, gap) =>
            if !flow && (c.column : Int) < indent then .ok (text, c, gap.broken)
            else plainFrom flow indent fuel c text gap

/-- The plain scalar at the cursor inside the block indentation `indent`. -/
def plain (flow : Bool) (indent : Int) (c : Cursor) :
    Except Problem (List Char × Cursor × Bool) :=
  plainFrom flow (indent + 1) (c.rest.length + 1) c [] Gap.none

/-! ## Quoted scalars -/

/-- The character of a code of some hexadecimal digits. -/
def escapeCode (digits : Nat) (c : Cursor) : Except Problem (List Char × Cursor) :=
  let code := c.rest.take digits
  if code.length < digits then .error .expectedHexadecimal
  else
    match Text.natural? 16 code with
    | none => .error .expectedHexadecimal
    | some n =>
      match Text.scalar? n with
      | some char => .ok ([char], c.skip digits)
      | none => .error .invalidEscapeCode

/-- What a backslash in front of the cursor and the character there stand for. -/
def escape (c : Cursor) : Except Problem (List Char × Cursor) :=
  let one (ch : Char) : Except Problem (List Char × Cursor) := .ok ([ch], c.skip 1)
  match c.peek with
  | some '0' => one '\x00'
  | some 'a' => one '\x07'
  | some 'b' => one '\x08'
  | some 't' => one '\t'
  | some '\t' => one '\t'
  | some 'n' => one '\n'
  | some 'v' => one '\x0b'
  | some 'f' => one '\x0c'
  | some 'r' => one '\r'
  | some 'e' => one '\x1b'
  | some ' ' => one ' '
  | some '"' => one '"'
  | some '/' => one '/'
  | some '\\' => one '\\'
  | some 'N' => one '\u0085'
  | some '_' => one '\u00a0'
  | some 'L' => one '\u2028'
  | some 'P' => one '\u2029'
  | some 'x' => escapeCode 2 (c.skip 1)
  | some 'u' => escapeCode 4 (c.skip 1)
  | some 'U' => escapeCode 8 (c.skip 1)
  | _ => .error .unknownEscape

/-- The characters of a quoted scalar up to a blank, a line break or the closing
    quote, and whether an escaped line break ends them. -/
def quotedWord (single : Bool) : Nat → Cursor → Except Problem (List Char × Cursor × Bool)
  | 0, c => .ok ([], c, false)
  | fuel + 1, c =>
    let continueWith (text : List Char) (c : Cursor) :
        Except Problem (List Char × Cursor × Bool) :=
      (quotedWord single fuel c).map fun (more, rest) => (text ++ more, rest)
    match c.peek with
    | none => .ok ([], c, false)
    | some ch =>
      if isBlank ch || isBreak ch then .ok ([], c, false)
      else if single then
        if ch = '\'' then
          if c.peekAt 1 = some '\'' then continueWith ['\''] (c.skip 2) else .ok ([], c, false)
        else continueWith [ch] (c.skip 1)
      else if ch = '"' then .ok ([], c, false)
      else if ch = '\\' then
        if (c.peekAt 1).any isBreak then .ok ([], (c.skip 1).readBreak.2, true)
        else
          match escape (c.skip 1) with
          | .error e => .error e
          | .ok (text, c) => continueWith text c
      else continueWith [ch] (c.skip 1)

/-- The characters of a quoted scalar up to the closing quote, behind `text`. -/
def quotedFrom (single : Bool) : Nat → Cursor → List Char → Except Problem (List Char × Cursor)
  | 0, _, _ => .error .endInScalar
  | fuel + 1, c, text =>
    if c.atDocumentMarker then .error .documentInScalar
    else if c.peek.isNone then .error .endInScalar
    else
      match quotedWord single (c.rest.length + 1) c with
      | .error e => .error e
      | .ok (word, c, escaped) =>
        if c.peek = some (if single then '\'' else '"') then .ok (text ++ word, c.skip 1)
        else
          match readGap none (c.rest.length + 1) c { Gap.none with broken := escaped } with
          | .error e => .error e
          | .ok (c, gap) => quotedFrom single fuel c (text ++ word ++ gap.fold)

/-- The quoted scalar whose opening quote is at the cursor. -/
def quoted (single : Bool) (c : Cursor) : Except Problem (List Char × Cursor) :=
  quotedFrom single (c.rest.length + 1) (c.skip 1) []

/-! ## Block scalars -/

/-- What becomes of the line breaks at the end of a block scalar. -/
inductive Chomping where
  | strip
  | clip
  | keep
deriving DecidableEq

/-- The chomping and the indentation indicator of a block scalar, in either order. -/
def blockHeader (c : Cursor) : Except Problem (Chomping × Option Nat × Cursor) :=
  let chomping? (c : Cursor) : Option Chomping :=
    match c.peek with
    | some '+' => some .keep
    | some '-' => some .strip
    | _ => none
  let digit? (c : Cursor) : Option Nat :=
    c.peek.bind fun ch => if ch.isDigit then some (ch.toNat - '0'.toNat) else none
  match chomping? c with
  | some chomping =>
    match digit? (c.skip 1) with
    | some 0 => .error .zeroIndentation
    | some n => .ok (chomping, some n, c.skip 2)
    | none => .ok (chomping, none, c.skip 1)
  | none =>
    match digit? c with
    | some 0 => .error .zeroIndentation
    | some n =>
      match chomping? (c.skip 1) with
      | some chomping => .ok (chomping, some n, c.skip 2)
      | none => .ok (.clip, some n, c.skip 1)
    | none => .ok (.clip, none, c)

/-- The blank lines at the cursor, the indentation behind them skipped: up to
    `indent`, or all of it if the indentation is not known yet.  The last number
    is the greatest column reached. -/
def blockBreaks (indent : Option Nat) :
    Nat → Cursor → List Char → Nat → Except Problem (List Char × Cursor × Nat)
  | 0, c, breaks, deepest => .ok (breaks, c, deepest)
  | fuel + 1, c, breaks, deepest =>
    let spaces := (c.rest.takeWhile (· = ' ')).length
    let c := c.skip (indent.elim spaces fun limit => min spaces (limit - c.column))
    let deepest := max deepest c.column
    if c.peek = some '\t' ∧ indent.all (c.column < ·) then .error .tabInIndentation
    else if c.peek.any isBreak then
      let (kept, next) := c.readBreak
      blockBreaks indent fuel next (breaks ++ kept) deepest
    else .ok (breaks, c, deepest)

/-- The lines of a block scalar at indentation `indent`, behind the text, the
    pending line break and the blank lines read so far. -/
def blockLines (folded : Bool) (indent : Nat) : Nat → Cursor → List Char → List Char → List Char →
    Bool → Except Problem (List Char × List Char × List Char × Cursor)
  | 0, c, text, pending, breaks, _ => .ok (text, pending, breaks, c)
  | fuel + 1, c, text, pending, breaks, blank =>
    if c.column = indent ∧ c.peek.isSome then
      let startsBlank := c.peek.any isBlank
      let joint :=
        if folded ∧ pending.head? = some '\n' ∧ !blank ∧ !startsBlank then
          (if breaks.isEmpty then [' '] else [])
        else pending
      let line := c.rest.takeWhile (!isBreak ·)
      let (kept, next) := (c.skip line.length).readBreak
      match blockBreaks (some indent) (next.rest.length + 1) next [] 0 with
      | .error e => .error e
      | .ok (more, c, _) =>
        blockLines folded indent fuel c (text ++ joint ++ breaks ++ line) kept more startsBlank
    else .ok (text, pending, breaks, c)

/-- The block scalar whose indicator is at the cursor, inside the block
    indentation `indent`. -/
def block (folded : Bool) (indent : Int) (c : Cursor) : Except Problem (List Char × Cursor) :=
  match blockHeader (c.skip 1) with
  | .error e => .error e
  | .ok (chomping, increment, c) =>
    let c := c.skipWhile isBlank
    let c := if c.peek = some '#' then c.skipWhile (!isBreak ·) else c
    if !endsLine c.peek then .error .expectedLineBreak
    else
      let c := c.readBreak.2
      let declared := increment.map fun n => (max indent 0).toNat + n
      match blockBreaks declared (c.rest.length + 1) c [] 0 with
      | .error e => .error e
      | .ok (breaks, c, deepest) =>
        let width := declared.getD (max deepest (max (indent + 1).toNat 1))
        match blockLines folded width (c.rest.length + 1) c [] [] breaks false with
        | .error e => .error e
        | .ok (text, pending, breaks, c) =>
          let text := match chomping with
            | .strip => text
            | .clip => text ++ pending
            | .keep => text ++ pending ++ breaks
          .ok (text, c)

end CourseSite.Yaml.Scalar
