/-
  Where the links of a Markdown text lead.

  * `reference?`, `plain`: character references and escapes, and a text without them.
  * `target?`, `title?`: the target and the title of a link.
  * `label?`: a label, for which a definition may stand elsewhere.
  * `definition?`: a label with its target and its title.

  In the cell of a table a bar stands behind a backslash, and that backslash is not part of
  the text.
-/
import CourseSite.Markdown.Source
import CourseSite.Text.Case
import CourseSite.Text.Entity

namespace CourseSite.Markdown

/-! ## References and escapes -/

/-- The digits of a reference and the base that they are in. -/
def referenceDigits (cs : List Char) : Nat × Nat × List Char :=
  match cs with
  | 'x' :: cs | 'X' :: cs => (16, 6, cs)
  | cs => (10, 7, cs)

/-- The characters of a reference whose ampersand was read, and the text behind it.  The
    code zero stands for the replacement character. -/
def reference? (cs : List Char) : Option (List Char × List Char) :=
  match cs with
  | '#' :: cs =>
    let (base, most, cs) := referenceDigits cs
    let digits := (cs.takeWhile fun c => (Text.digit? base c).isSome).take most
    match (Text.natural? base digits).bind Text.scalar?, cs.drop digits.length with
    | some c, ';' :: rest => some ([if c = '\x00' then '\uFFFD' else c], rest)
    | _, _ => none
  | cs =>
    let name := cs.takeWhile Char.isAlphanum
    match cs.drop name.length with
    | ';' :: rest => (Text.entity? name).map fun found => (found, rest)
    | _ => none

/-- A text with its escapes and references replaced and without carriage returns. -/
def unescape (inCell : Bool) : Nat → List Char → List Char
  | 0, cs => cs
  | _ + 1, [] => []
  | fuel + 1, '\r' :: cs => unescape inCell fuel cs
  | fuel + 1, '\\' :: cs =>
    match cs with
    | '\\' :: '|' :: rest =>
      if inCell then '|' :: unescape inCell fuel rest
      else '\\' :: unescape inCell fuel ('|' :: rest)
    | c :: rest =>
      if Text.isAsciiPunctuation c then c :: unescape inCell fuel rest
      else '\\' :: unescape inCell fuel cs
    | [] => ['\\']
  | fuel + 1, '&' :: cs =>
    match reference? cs with
    | some (found, rest) => found ++ unescape inCell fuel rest
    | none => '&' :: unescape inCell fuel cs
  | fuel + 1, c :: cs => c :: unescape inCell fuel cs

/-- A text with its escapes and references replaced and without carriage returns. -/
def plain (inCell : Bool) (cs : List Char) : List Char := unescape inCell cs.length cs

/-! ## Targets -/

/-- A target between angle brackets, behind the first of them. -/
def angleTarget? : Source → Option (List Char × Source)
  | .char '>' :: source => some ([], source)
  | .char '\\' :: .char c :: source =>
    if Text.isAsciiPunctuation c then
      (angleTarget? source).map fun (target, rest) => ('\\' :: c :: target, rest)
    else (angleTarget? (.char c :: source)).map fun (target, rest) => ('\\' :: target, rest)
  | .char c :: source =>
    if c = '<' then none else (angleTarget? source).map fun (target, rest) => (c :: target, rest)
  | _ => none

/-- A target without brackets: no blanks, and parentheses in pairs.  No parenthesis opens
    where more than `most` are open. -/
def bareTarget? (most depth : Nat) : Source → Option (List Char × Source)
  | .char '\\' :: .char c :: source =>
    if Text.isAsciiPunctuation c then
      (bareTarget? most depth source).map fun (target, rest) => ('\\' :: c :: target, rest)
    else
      (bareTarget? most depth (.char c :: source)).map fun (target, rest) => ('\\' :: target, rest)
  | .char c :: source =>
    if c.toNat ≤ 0x20 then if depth = 0 then some ([], .char c :: source) else none
    else if c = '(' ∧ most < depth then none
    else if c = ')' ∧ depth = 0 then some ([], .char c :: source)
    else
      let depth := if c = '(' then depth + 1 else if c = ')' then depth - 1 else depth
      (bareTarget? most depth source).map fun (target, rest) => (c :: target, rest)
  | source => if depth = 0 then some ([], source) else none

/-- A target at the start of a text. -/
def target? (most : Nat) (source : Source) : Option (List Char × Source) :=
  match source with
  | .char '<' :: source => angleTarget? source
  | source => bareTarget? most 0 source

/-! ## Titles -/

/-- The text up to a closing mark that no backslash stands before.  Parentheses do not
    contain another one. -/
def upTo? (mark : Char) : Source → Option (Source × Source)
  | [] => none
  | .char '\\' :: .char c :: source =>
    (upTo? mark source).map fun (text, rest) => (.char '\\' :: .char c :: text, rest)
  | glyph :: source =>
    if glyph.is (· = mark) then some ([], source)
    else if mark = ')' ∧ glyph.is (· = '(') then none
    else (upTo? mark source).map fun (text, rest) => (glyph :: text, rest)

/-- A title at the start of a text. -/
def title? : Source → Option (Source × Source)
  | .char '"' :: source => upTo? '"' source
  | .char '\'' :: source => upTo? '\'' source
  | .char '(' :: source => upTo? ')' source
  | _ => none

/-- The lines of a title, each with the line break before it. -/
def titleLines : Source → List Char × List (List Char × Source)
  | [] => ([], [])
  | .char c :: source =>
    let (line, lines) := titleLines source
    (c :: line, lines)
  | .newline ending _ :: source =>
    ([], (ending, source) :: (titleLines source).2)

/-- The characters of a title.  The title of a link loses the blanks at the start of its
    lines, the title of a definition has line feeds between them. -/
def titleText (inCell inLink : Bool) (title : Source) : List Char :=
  let (first, lines) := titleLines title
  plain inCell first ++ lines.flatMap fun (ending, source) =>
    let source := if inLink then source.dropWhile Glyph.isSpace else source
    (if inLink ∧ ending.length = 2 then ending else ['\n']) ++ plain inCell (Source.chars source)

/-! ## Gaps -/

/-- The text behind blanks and at most one line break, and whether there is a break. -/
def skipGap (source : Source) : Bool × Source :=
  match source.dropWhile (·.is isBlank) with
  | .newline _ _ :: rest => (true, rest.dropWhile (·.is isBlank))
  | rest => (false, rest)

/-- The target and the title between parentheses, whose first one was read. -/
def inlineTarget? (inCell : Bool) (source : Source) : Option (List Char × List Char × Source) :=
  (target? 32 (skipGap source).2).bind fun (target, behind) =>
    let next := (skipGap behind).2
    let (title, rest) := match title? next with
      | some (title, rest) => (titleText inCell true title, (skipGap rest).2)
      | none => ([], next)
    match rest with
    | .char ')' :: rest => some (plain inCell target, title, rest)
    | _ => none

/-! ## Labels -/

/-- The characters of a label up to its closing bracket, with a space for every gap, and
    the text behind it.  `count` bounds its length, `newlines` is the number of line breaks
    in the gap that was read last, and a label of nothing but gaps and escapes is none. -/
def labelFrom? (inCell : Bool) (count : Nat) (newlines : Option Nat) (seen : Bool) :
    Source → Option (List Char × Source)
  | [] => none
  | .newline ending lead :: source =>
    if 1000 ≤ count ∨ newlines.any (0 < ·) then none
    else
      (labelFrom? inCell (count + ending.length + lead.length) (some 1) seen source).map
        fun (label, rest) => (if newlines.isNone then ' ' :: label else label, rest)
  | .char '\\' :: .char c :: source =>
    if 1000 ≤ count then none
    else
      (labelFrom? inCell (count + 1 + c.utf8Size) none (seen || 1 < c.utf8Size) source).map
        fun (label, rest) => (if inCell ∧ c = '|' then c :: label else '\\' :: c :: label, rest)
  | .char c :: source =>
    if 1000 ≤ count ∨ c = '[' then none
    else if c = ']' then if seen then some ([], source) else none
    else if isBlank c then
      (labelFrom? inCell (count + 1) (some (newlines.getD 0)) seen source).map
        fun (label, rest) => (if newlines.isNone then ' ' :: label else label, rest)
    else
      let width := if c.utf8Size = 1 then 0 else c.utf8Size
      (labelFrom? inCell (count + width) none true source).map
        fun (label, rest) => (c :: label, rest)

/-- The label at the start of a text whose bracket was read, as labels are compared, and
    the text behind its closing bracket. -/
def label? (inCell : Bool) (source : Source) : Option (String × Source) :=
  (labelFrom? inCell 0 none false source).map fun (label, rest) =>
    (Text.fold (String.ofList label), rest)

/-! ## Definitions -/

/-- The target and the title that stand for a label. -/
structure Definition where
  label : String
  target : List Char
  title : List Char

/-- The first definition of a label. -/
def Definition.find? (table : List Definition) (label : String) : Option Definition :=
  table.find? (·.label == label)

/-- Nothing but blanks up to the end of a line. -/
def endsLine (source : Source) : Bool := source.chars.all isBlank

/-- The text behind a gap, and whether it holds a line break, unless the text ends there
    or has a second break. -/
def gap? (source : Source) : Option (Bool × Source) :=
  let (broken, rest) := skipGap source
  match rest with
  | .char _ :: _ => some (broken, rest)
  | _ => none

/-- The definition at the start of a text, and the text behind its target or its title.
    What follows on the line of the target is its title; what follows on the next line may
    be something else. -/
def definition? (source : Source) : Option (Definition × Source) :=
  match source with
  | .char '[' :: source =>
    (label? false source).bind fun (label, behind) =>
      match behind with
      | .char ':' :: behind =>
        (gap? behind).bind fun (_, behind) =>
          (target? 1 behind).bind fun (target, rest) =>
            let bare := Definition.mk label (plain false target) []
            if target.isEmpty ∧ rest.length = behind.length then none
            else
              match gap? rest with
              | none => some (bare, rest)
              | some (broken, next) =>
                let titled := if next.length = rest.length then none else
                  (title? next).filter fun (_, rest) => endsLine rest
                match titled with
                | some (title, rest) =>
                  some ({ bare with title := titleText false false title }, rest)
                | none => if broken then some (bare, rest) else none
      | _ => none
  | _ => none

end CourseSite.Markdown
