/-
  Characters by the names that HTML has for them.

  * `entity?`: the characters of a name.
-/
import CourseSite.Text.Digits
import CourseSite.Text.EntityTable
import CourseSite.Text.Split

namespace CourseSite.Text

/-- The characters of an entry of the table, if it is the entry of a name. -/
def entryFor? (name entry : List Char) : Option (List Char) :=
  if entry.takeWhile (· ≠ '=') = name then
    (split (· = '+') (entry.drop (name.length + 1))).mapM fun code =>
      (natural? 16 code).bind scalar?
  else none

/-- The characters that a name stands for; case matters. -/
def entity? (name : List Char) : Option (List Char) :=
  entityLines.findSome? fun line => (split (· = ' ') line.toList).findSome? (entryFor? name)

end CourseSite.Text
