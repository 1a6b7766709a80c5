/-
  What TOML text stands for, and how it is read.

  * `Value`: a scalar, a list or a table.
  * `Table`: values by key, in the order of the document.
  * `Reader`: a way to read text.
-/

namespace CourseSite.Toml

/-- A scalar value.  Fractions and times are told from other values, but not from
    each other. -/
inductive Scalar where
  | string (text : String)
  | integer (n : Int)
  | boolean (b : Bool)
  | fraction
  | time
deriving DecidableEq

/-- A value of a document. -/
inductive Value where
  | scalar (value : Scalar)
  | list (items : List Value)
  | table (entries : List (String × Value))

/-- Values by key, in the order of the document. -/
abbrev Table := List (String × Value)

/-- The value of a key. -/
def Table.get? (table : Table) (key : String) : Option Value :=
  (table.find? (·.1 == key)).map (·.2)

/-- A way to read TOML text.  A text that cannot be read is an error with its reason. -/
abbrev Reader := String → Except String Table

end CourseSite.Toml
