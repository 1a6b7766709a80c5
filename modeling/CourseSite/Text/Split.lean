/-
  Dividing a text at some of its characters.

  * `split`: the pieces between the characters of a class.
-/

namespace CourseSite.Text

/-- The pieces of a text between the characters that divide it, at least one. -/
def split (divides : Char → Bool) : List Char → List (List Char)
  | [] => [[]]
  | c :: cs =>
    if divides c then [] :: split divides cs
    else
      match split divides cs with
      | [] => [[c]]
      | piece :: pieces => (c :: piece) :: pieces

end CourseSite.Text
