/-
  The text of a Markdown block, which may run over several lines.

  * `Glyph`: a character, or a line break with what the containers of the block take of
    the next line.
  * `Source`: some glyphs; `Source.raw` is the text they were read from.
-/
import CourseSite.Markdown.Cursor

namespace CourseSite.Markdown

/-- A part of the text of a block.  A line break keeps its characters and the start of
    the next line that does not belong to the block. -/
inductive Glyph where
  | char (c : Char)
  | newline (ending lead : List Char)

/-- The text of a block. -/
abbrev Source := List Glyph

/-- The characters that a glyph was read from. -/
def Glyph.raw : Glyph → List Char
  | char c => [c]
  | newline ending lead => ending ++ lead

/-- A glyph that is a character of a class. -/
def Glyph.is (p : Char → Bool) : Glyph → Bool
  | char c => p c
  | newline _ _ => false

/-- A blank or a line break. -/
def Glyph.isGap : Glyph → Bool
  | char c => isBlank c
  | newline _ _ => true

/-- A space or a tab. -/
def Glyph.isSpace (glyph : Glyph) : Bool := glyph.is fun c => c = ' ' || c = '\t'

namespace Source

/-- A text without line breaks. -/
def ofChars (cs : List Char) : Source := cs.map .char

/-- The characters that a text was read from. -/
def raw (source : Source) : List Char := source.flatMap Glyph.raw

/-- The characters up to the first line break. -/
def chars : Source → List Char
  | .char c :: source => c :: chars source
  | _ => []

/-- The characters at the start of a text that are in a class. -/
def run (p : Char → Bool) : Source → List Char
  | .char c :: source => if p c then c :: run p source else []
  | _ => []

/-- The text behind some of the characters that it was read from.  A glyph of which a
    part is left out is left out. -/
def dropRaw : Nat → Source → Source
  | _, [] => []
  | n, glyph :: source =>
    if n = 0 then glyph :: source else dropRaw (n - glyph.raw.length) source

/-- The part of a text before another part that it ends with. -/
def before (source rest : Source) : Source := source.take (source.length - rest.length)

end Source

end CourseSite.Markdown
