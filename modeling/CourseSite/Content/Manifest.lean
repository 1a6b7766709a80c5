/-
  The list of entries that every content directory carries.

  * `Manifest.read`: the names of the entries in order, all of them admissible and
    none twice.
-/
import CourseSite.Text.Letter
import CourseSite.Yaml.Value

namespace CourseSite.Manifest

/-- What is wrong with a manifest. -/
inductive Problem where
  | unreadable (reason : String)
  | emptyName
  | path (entry : String)
  | hidden (entry : String)
  | repeated (entry : String)
deriving DecidableEq

/-- The text of a problem. -/
def Problem.message : Problem → String
  | .unreadable reason => "manifest must be a list of entry names: " ++ reason
  | .emptyName => "empty entry name"
  | .path entry => s!"entry \x60{entry}\x60 must be a plain name, not a path"
  | .hidden entry => s!"entry \x60{entry}\x60 is hidden"
  | .repeated entry => s!"entry \x60{entry}\x60 is listed more than once"

/-! ## Checking -/

/-- What is wrong with the name of an entry on its own. -/
def nameProblem? (entry : String) : Option Problem :=
  if Text.trim entry = "" then some .emptyName
  else if entry.toList.any fun c => c = '/' || c = '\\' then some (.path entry)
  else if entry.toList.head?.any fun c => c = '.' || c = '_' then some (.hidden entry)
  else none

/-- The first problem of a list of names, behind the names `seen`. -/
def problem? (seen : List String) : List String → Option Problem
  | [] => none
  | entry :: entries =>
    match nameProblem? entry with
    | some problem => some problem
    | none =>
      if seen.contains entry then some (.repeated entry) else problem? (entry :: seen) entries

/-! ## Reading -/

/-- The entries of a manifest; a blank one has none. -/
def read (reader : Yaml.Reader) (text : String) : Except Problem (List String) :=
  if Text.trim text = "" then .ok []
  else
    match reader.names text with
    | .error reason => .error (.unreadable reason)
    | .ok entries =>
      match problem? [] entries with
      | some problem => .error problem
      | none => .ok entries

end CourseSite.Manifest
