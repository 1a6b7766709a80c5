/-
  What YAML text stands for, and how it is read.

  * `Value`: null, truth value, number, text, sequence or mapping, perhaps with a tag.
  * `Reader`: a way to read text.
-/
import CourseSite.Decimal.Double

namespace CourseSite.Yaml

/-- A value.  Whole numbers and fractions are different keys of a mapping. -/
inductive Value where
  | null
  | bool (b : Bool)
  | integer (n : Int)
  | fraction (x : Double)
  | string (text : String)
  | sequence (items : List Value)
  | mapping (members : List (Value × Value))
  /-- A value with a tag that no schema knows. -/
  | tagged (tag : String) (value : Value)

/-- A way to read YAML text.  A text that cannot be read is an error with its reason. -/
structure Reader where
  /-- The names that a text lists. -/
  names : String → Except String (List String)
  /-- The value of a text. -/
  value : String → Except String Value

end CourseSite.Yaml
