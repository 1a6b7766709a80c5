/-
  Paths as they are written.

  * `Path`: the text of a path, names separated by slashes.
  * `Path.join`: an absolute path replaces what it is joined to.
  * `Path.names`: what lies between the slashes, empty names included.
  * `Path.parts`, `Path.parent?`, `Path.fileName?`: the path read as a sequence
    of components, where empty names and inner dots do not count.
-/
import CourseSite.Text.Split

namespace CourseSite

/-- A path as it is written. -/
structure Path where
  text : String
deriving DecidableEq

namespace Path

/-- What lies between the slashes; a slash at either end bounds an empty name. -/
def names (path : Path) : List String := (Text.split (· = '/') path.text.toList).map String.ofList

/-- The path starts at the root. -/
def isAbsolute (path : Path) : Bool := path.text.toList.head? == some '/'

/-- The path `relative` seen from `base`, without any normalisation. -/
def join (base relative : Path) : Path :=
  if relative.isAbsolute || base.text.isEmpty then relative
  else if base.text.toList.getLast? == some '/' then ⟨base.text ++ relative.text⟩
  else ⟨base.text ++ "/" ++ relative.text⟩

/-- The absolute path of a sequence of names. -/
def ofNames (names : List String) : Path := ⟨"/" ++ "/".intercalate names⟩

/-- The components: names other than the empty one and the dot; a dot counts only
    at the start of a relative path. -/
def parts (path : Path) : List String :=
  match path.names with
  | [] => []
  | first :: others =>
    (if first = "" then [] else [first]) ++ others.filter fun name => name ≠ "" && name ≠ "."

/-- The text up to the last component, without the slashes and dots before it. -/
def beforeLast (cs : List Char) : List Char :=
  let body := trimEnd cs.reverse
  (trimEnd (body.dropWhile (· != '/'))).reverse
where
  /-- Slashes and dot components at the end of a text given in reverse. -/
  trimEnd : List Char → List Char
    | '/' :: rest => if rest.isEmpty then ['/'] else trimEnd rest
    | '.' :: '/' :: rest => trimEnd ('/' :: rest)
    | cs => cs

/-- The path without its last component; the root and the empty path have none. -/
def parent? (path : Path) : Option Path :=
  if path.parts.isEmpty then none else some ⟨String.ofList (beforeLast path.text.toList)⟩

/-- The last component, unless it leads upwards or is the starting dot. -/
def fileName? (path : Path) : Option String :=
  match path.parts.getLast? with
  | none => none
  | some name => if name = ".." ∨ name = "." then none else some name

end Path

end CourseSite
