/-
  The literal values that a directive takes as arguments.

  * `Value`: text, 64-bit integer, double, truth value, object, array.
  * `Value.kind`: the outermost constructor, by name.
  * `Value.display`: the text that messages quote; strings stand in single quotes
    with the single quote escaped, and keys are written bare.
  * `Value.toJson`: the JSON value, object members sorted by key.
-/
import CourseSite.Directive.Fields
import CourseSite.Text.Json

namespace CourseSite.Directive

/-- A literal value. -/
inductive Value where
  | string (text : String)
  | integer (n : Int64)
  | float (x : Double)
  | bool (b : Bool)
  | object (fields : List (String × Value))
  | array (items : List Value)

/-- The kinds of values. -/
inductive Kind where
  | string
  | integer
  | float
  | bool
  | object
  | array
deriving DecidableEq

/-- The name of a kind in messages. -/
def Kind.name : Kind → String
  | .string => "String"
  | .integer => "Integer"
  | .float => "Float"
  | .bool => "Bool"
  | .object => "Object"
  | .array => "Array"

namespace Value

/-- The kind of a value. -/
def kind : Value → Kind
  | .string _ => .string
  | .integer _ => .integer
  | .float _ => .float
  | .bool _ => .bool
  | .object _ => .object
  | .array _ => .array

/-- The text of a string value. -/
def asString? : Value → Option String
  | .string text => some text
  | _ => none

/-! ## Display -/

/-- One character of a displayed string: only the single quote is escaped. -/
def displayChar (c : Char) : List Char := if c = '\'' then ['\\', '\''] else [c]

mutual

/-- The text of a value in messages. -/
def display : Value → String
  | .string text => "'" ++ String.ofList (text.toList.flatMap displayChar) ++ "'"
  | .integer n => toString n.toInt
  | .float x => x.render .pointed
  | .bool b => if b then "true" else "false"
  | .object fields => "\x7b" ++ ",".intercalate (displayFields fields) ++ " \x7d"
  | .array items => "[" ++ ", ".intercalate (displayAll items) ++ "]"

/-- The texts of the items of an array. -/
def displayAll : List Value → List String
  | [] => []
  | item :: items => item.display :: displayAll items

/-- The texts of the fields of an object, a blank in front of each. -/
def displayFields : List (String × Value) → List String
  | [] => []
  | (key, value) :: fields => (" " ++ key ++ ": " ++ value.display) :: displayFields fields

end

/-! ## JSON -/

mutual

/-- The JSON value; the members of an object are sorted by key. -/
def toJson : Value → Json
  | .string text => .string text
  | .integer n => .integer n.toInt
  | .float x => if x.isFinite then .float x else .null
  | .bool b => .bool b
  | .object fields => .object ((membersToJson fields).mergeSort fun a b => a.1 ≤ b.1)
  | .array items => .array (itemsToJson items)

/-- The JSON values of the items of an array. -/
def itemsToJson : List Value → List Json
  | [] => []
  | item :: items => item.toJson :: itemsToJson items

/-- The JSON members of the fields of an object. -/
def membersToJson : List (String × Value) → List (String × Json)
  | [] => []
  | (key, value) :: fields => (key, value.toJson) :: membersToJson fields

end

end Value

end CourseSite.Directive
