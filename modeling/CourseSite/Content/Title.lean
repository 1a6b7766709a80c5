/-
  Where the title of a page comes from when its front matter names none.

  * `heading?`: the first heading of the first level.
  * `ofSlug`: the words of a name, each with a capital.
-/
import CourseSite.Text.Case
import CourseSite.Text.Letter
import CourseSite.Text.Split

namespace CourseSite.Title

/-! ## Headings -/

/-- The heading text behind the `#` of a line: at least one blank, and then what is
    left of the line on which the next word stands, be it a later one. -/
def behindMark (cs : List Char) : Option (List Char) :=
  if cs.head?.any Text.isBlank then some ((cs.dropWhile Text.isBlank).takeWhile (· != '\n'))
  else none

/-- The first heading text; `lineStart` tells whether a line starts here. -/
def firstHeading (lineStart : Bool) : List Char → Option (List Char)
  | [] => none
  | c :: cs =>
    match if lineStart && c = '#' then behindMark cs else none with
    | some text => some text
    | none => firstHeading (c = '\n') cs

/-- The title that the first heading of a document gives. -/
def heading? (body : String) : Option String :=
  ((firstHeading true body.toList).map fun text => Text.trim (String.ofList text)).filter
    (· ≠ "")

/-! ## Names -/

/-- The character separates the words of a name. -/
def separatesWords (c : Char) : Bool := c = '-' || c = '_' || c = ' '

/-- The word with its first character in upper case. -/
def capitalize : List Char → List Char
  | [] => []
  | c :: cs => Text.upperChar c ++ cs

/-- The title that a name gives. -/
def ofSlug (slug : String) : String :=
  let words := (Text.split separatesWords slug.toList).filter (!·.isEmpty)
  " ".intercalate (words.map fun word => String.ofList (capitalize word))

end CourseSite.Title
