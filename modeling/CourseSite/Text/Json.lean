/-
  JSON values and their compact text.

  * `Json`: whole numbers and doubles are kept apart, and an object is a list of
    members in the order in which they are written.
  * `Json.render`: the text without blanks; a number that is infinite or a NaN
    has no JSON form and is written `null`.
-/
import CourseSite.Decimal.Shortest

namespace CourseSite

/-- A JSON value. -/
inductive Json where
  | null
  | bool (b : Bool)
  | integer (n : Int)
  | float (x : Double)
  | string (text : String)
  | array (items : List Json)
  | object (members : List (String × Json))

namespace Json

/-- One character inside a JSON string: the quote, the backslash and the control
    characters below U+0020 are escaped, everything else stands for itself. -/
def escapeChar (c : Char) : List Char :=
  match c with
  | '"' => ['\\', '"']
  | '\\' => ['\\', '\\']
  | '\x08' => ['\\', 'b']
  | '\x09' => ['\\', 't']
  | '\x0a' => ['\\', 'n']
  | '\x0c' => ['\\', 'f']
  | '\x0d' => ['\\', 'r']
  | c =>
    if c.toNat < 0x20 then
      ['\\', 'u', '0', '0', Nat.digitChar (c.toNat / 16), Nat.digitChar (c.toNat % 16)]
    else [c]

/-- A quoted JSON string. -/
def quote (text : String) : String :=
  "\"" ++ String.ofList (text.toList.flatMap escapeChar) ++ "\""

mutual

/-- The compact text of a value. -/
def render : Json → String
  | .null => "null"
  | .bool b => if b then "true" else "false"
  | .integer n => toString n
  | .float x => if x.isFinite then x.render .json else "null"
  | .string text => quote text
  | .array items => "[" ++ ",".intercalate (renderAll items) ++ "]"
  | .object members => "\x7b" ++ ",".intercalate (renderMembers members) ++ "\x7d"

/-- The texts of the items of an array. -/
def renderAll : List Json → List String
  | [] => []
  | item :: items => item.render :: renderAll items

/-- The texts of the members of an object. -/
def renderMembers : List (String × Json) → List String
  | [] => []
  | (key, value) :: members => (quote key ++ ":" ++ value.render) :: renderMembers members

end

end Json

end CourseSite
