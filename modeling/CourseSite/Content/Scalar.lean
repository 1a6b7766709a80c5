/-
  The scalar values of page metadata and of tokens.

  * `Scalar`: text, number or truth value.
  * `Scalar.display`: the value as text, numbers without an exponent.
-/
import CourseSite.Decimal.Shortest

namespace CourseSite

/-- A scalar value. -/
inductive Scalar where
  | string (text : String)
  | number (x : Double)
  | bool (b : Bool)
deriving DecidableEq

namespace Scalar

/-- The value as text. -/
def display : Scalar → String
  | .string text => text
  | .number x => x.render .plain
  | .bool b => if b then "true" else "false"

/-- The value is the truth value true. -/
def isTrue (scalar : Scalar) : Bool := scalar = .bool true

/-- The text of a string value. -/
def asString? : Scalar → Option String
  | .string text => some text
  | _ => none

end Scalar

end CourseSite
