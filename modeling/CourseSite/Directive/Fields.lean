/-
  Fields in the order of their first insertion, with no key twice.

  * `Fields α`: key and value pairs in that order.
  * `insert`: a key that is present keeps its first value, and the answer tells
    whether the pair went in.
  * `collect`: inserts a list of pairs one after the other.
-/

namespace CourseSite

/-- Pairs of a key and a value, in the order of insertion. -/
abbrev Fields (α : Type) := List (String × α)

namespace Fields

variable {α : Type}

/-- The value of a key. -/
def get? (fields : Fields α) (key : String) : Option α :=
  (fields.find? (·.1 == key)).map (·.2)

/-- The key is present. -/
def contains (fields : Fields α) (key : String) : Bool := (fields.get? key).isSome

/-- The keys in order. -/
def keys (fields : Fields α) : List String := fields.map (·.1)

/-- Puts a new key at the end and answers `true`; a key that is present is left
    alone, and the answer is `false`. -/
def insert (fields : Fields α) (key : String) (value : α) : Bool × Fields α :=
  if fields.contains key then (false, fields) else (true, fields ++ [(key, value)])

/-- The fields after inserting the pairs in order: the first value of a key stays. -/
def collect (pairs : List (String × α)) : Fields α :=
  pairs.foldl (fun fields (key, value) => (fields.insert key value).2) []

end Fields

end CourseSite
