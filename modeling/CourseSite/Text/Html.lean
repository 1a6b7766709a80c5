/-
  Text quoted for HTML.

  * `Html.escape`: the five characters that carry meaning in HTML become
    entities, everything else stands for itself.
-/

namespace CourseSite.Html

/-- One character inside HTML text or a quoted attribute. -/
def escapeChar (c : Char) : List Char :=
  match c with
  | '&' => ['&', 'a', 'm', 'p', ';']
  | '<' => ['&', 'l', 't', ';']
  | '>' => ['&', 'g', 't', ';']
  | '"' => ['&', 'q', 'u', 'o', 't', ';']
  | '\'' => ['&', '#', 'x', '2', '7', ';']
  | c => [c]

/-- Text inside HTML text or a quoted attribute. -/
def escape (text : String) : String := String.ofList (text.toList.flatMap escapeChar)

end CourseSite.Html
