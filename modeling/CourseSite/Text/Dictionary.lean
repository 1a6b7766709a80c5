/-
  Dictionaries: entries in ascending order of their keys, no key twice.

  * `Dictionary.insert`: sets a key, in its place.
  * `Dictionary.get?`: the value of a key.
-/

namespace CourseSite

/-- Entries in ascending order of their keys. -/
abbrev Dictionary (α : Type) := List (String × α)

namespace Dictionary

variable {α : Type}

/-- The dictionary without entries. -/
def empty : Dictionary α := []

/-- The dictionary with one key set. -/
def insert (key : String) (value : α) : Dictionary α → Dictionary α
  | [] => [(key, value)]
  | (other, old) :: entries =>
    if key = other then (key, value) :: entries
    else if key < other then (key, value) :: (other, old) :: entries
    else (other, old) :: insert key value entries

/-- The value of a key. -/
def get? (entries : Dictionary α) (key : String) : Option α :=
  (entries.find? (·.1 == key)).map (·.2)

end Dictionary

end CourseSite
