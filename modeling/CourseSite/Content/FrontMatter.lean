/-
  The settings at the head of a document, between a line `---` and the next line
  `---` or `...`.

  * `FrontMatter.split`: the settings, if there are any, and the body.
  * `FrontMatter.strip`: the body alone.
  * `FrontMatter.parse`: the scalar settings by name.
-/
import CourseSite.Content.Scalar
import CourseSite.Text.Dictionary
import CourseSite.Text.Letter
import CourseSite.Text.Lines
import CourseSite.Yaml.Value

namespace CourseSite.FrontMatter

/-- What is wrong with the head of a document. -/
inductive Problem where
  | unclosed
  | notAMapping
  | unreadable (reason : String)
deriving DecidableEq

/-- The text of a problem. -/
def Problem.message : Problem → String
  | .unclosed => "front matter opened with \x60---\x60 is never closed"
  | .notAMapping => "front matter must be a mapping"
  | .unreadable reason => "invalid front matter: " ++ reason

/-! ## Splitting -/

/-- The character ends a line or is part of its end. -/
def isLineEnd (c : Char) : Bool := c = '\r' || c = '\n'

/-- The line closes the front matter. -/
def isClosing (line : List Char) : Bool :=
  let text := (line.reverse.dropWhile isLineEnd).reverse
  text == ['-', '-', '-'] || text == ['.', '.', '.']

/-- The text before the first closing line and the text behind it. -/
def splitLines : List (List Char) → Option (List Char × List Char)
  | [] => none
  | line :: rest =>
    if isClosing line then some ([], rest.flatten)
    else (splitLines rest).map fun (yaml, body) => (line ++ yaml, body)

/-- The text behind the opening line. -/
def behindOpening? : List Char → Option (List Char)
  | '-' :: '-' :: '-' :: '\n' :: rest => some rest
  | '-' :: '-' :: '-' :: '\r' :: '\n' :: rest => some rest
  | _ => none

/-- The front matter of a document, if it has any, and its body. -/
def split (text : String) : Except Problem (Option String × String) :=
  match behindOpening? text.toList with
  | none => .ok (none, text)
  | some rest =>
    match splitLines (Text.lines rest) with
    | none => .error .unclosed
    | some (yaml, body) => .ok (some (String.ofList yaml), String.ofList body)

/-- The body of a document; all of it if its front matter is never closed. -/
def strip (text : String) : String :=
  match split text with
  | .ok (_, body) => body
  | .error _ => text

/-! ## Settings -/

/-- The scalar that a value is, null excepted.  One with a tag is skipped, too. -/
def scalar? : Yaml.Value → Option Scalar
  | .bool b => some (.bool b)
  | .integer n => some (.number (Double.ofInt n))
  | .fraction x => some (.number x)
  | .string text => some (.string text)
  | .null | .sequence _ | .mapping _ | .tagged _ _ => none

/-- The text that a value is, with or without tags. -/
def text? : Yaml.Value → Option String
  | .string text => some text
  | .tagged _ value => text? value
  | _ => none

/-- The scalars among the members that have a text for a key. -/
def settings (members : List (Yaml.Value × Yaml.Value)) : Dictionary Scalar :=
  members.foldl (fun found (key, value) =>
    match text? key, scalar? value with
    | some key, some scalar => found.insert key scalar
    | _, _ => found) Dictionary.empty

/-- The settings in a front matter. -/
def parse (reader : Yaml.Reader) (yaml : String) : Except Problem (Dictionary Scalar) :=
  if Text.trim yaml = "" then .ok Dictionary.empty
  else
    match reader.value yaml with
    | .ok (.mapping members) => .ok (settings members)
    | .ok .null => .ok Dictionary.empty
    | .ok _ => .error .notAMapping
    | .error reason => .error (.unreadable reason)

end CourseSite.FrontMatter
