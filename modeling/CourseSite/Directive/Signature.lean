/-
  What a directive declares about its arguments.

  * `ParamType`: the types of parameters; a record lists its fields, an array has
    one element type.
  * `Signature`: the named parameters of one way to call a directive.
-/
import CourseSite.Directive.Value

namespace CourseSite.Directive

/-- A field of a record over parameter types `τ`. -/
structure FieldOf (τ : Type) where
  name : String
  type : τ
  required : Bool

/-- The types of parameters. -/
inductive ParamType where
  | string
  | integer
  | float
  | bool
  | record (name : String) (fields : List (FieldOf ParamType))
  | array (element : ParamType)

/-- A field of a record type. -/
abbrev Field := FieldOf ParamType

/-- The text of a type in messages; a record shows its name. -/
def ParamType.display : ParamType → String
  | .string => "String"
  | .integer => "Integer"
  | .float => "Float"
  | .bool => "Bool"
  | .record name _ => name
  | .array element => "Array<" ++ element.display ++ ">"

/-- The declaration of a field; of two fields of one name the first counts. -/
def fieldNamed? (fields : List Field) (name : String) : Option Field :=
  fields.find? (·.name == name)

/-- A named parameter. -/
structure Param where
  name : String
  type : ParamType

/-- The text of a parameter: its name and its type. -/
def Param.display (param : Param) : String := param.name ++ ": " ++ param.type.display

/-- The parameters of one way to call a directive. -/
structure Signature where
  params : List Param

namespace Signature

/-- The number of arguments. -/
def arity (signature : Signature) : Nat := signature.params.length

/-- The text of a signature: its parameters in parentheses. -/
def display (signature : Signature) : String :=
  "(" ++ ", ".intercalate (signature.params.map Param.display) ++ ")"

end Signature

end CourseSite.Directive
