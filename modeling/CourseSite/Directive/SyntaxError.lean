/-
  What can be wrong with the text of a directive.

  * `SyntaxError.Cause`: every way in which a call or its arguments are malformed.
  * `SyntaxError`: a cause and the line where it was noticed.
  * `Shape`: the structure of a value as far as the elements of an array have to
    agree, which the cause `mixedArray` quotes.
-/
import CourseSite.Directive.Value

namespace CourseSite.Directive

/-! ## Shapes -/

/-- The structure of a value for array uniformity: its kind, and for an array the
    shape of its first element, if it has one. -/
inductive Shape where
  | scalar (kind : Kind)
  | emptyArray
  | array (element : Shape)
deriving DecidableEq

namespace Shape

/-- The shape of a value. -/
def ofValue : Value → Shape
  | .array [] => .emptyArray
  | .array (first :: _) => .array (ofValue first)
  | value => .scalar value.kind

/-- Two elements may stand in one array: scalars of one kind, and arrays whose
    elements agree; the empty array agrees with every array. -/
def agrees : Shape → Shape → Bool
  | .scalar a, .scalar b => a == b
  | .emptyArray, .emptyArray => true
  | .emptyArray, .array _ => true
  | .array _, .emptyArray => true
  | .array a, .array b => agrees a b
  | _, _ => false

/-- The text of a shape in messages. -/
def display : Shape → String
  | .scalar kind => kind.name
  | .emptyArray => "Array"
  | .array element => "Array<" ++ element.display ++ ">"

end Shape

/-! ## Causes -/

/-- A 64-bit integer is too large or too small. -/
inductive Overflow where
  | tooLarge
  | tooSmall
deriving DecidableEq

/-- The ways in which a directive is malformed. -/
inductive SyntaxError.Cause where
  /-- A string literal runs to the end of the text. -/
  | unterminatedString
  /-- A closing bracket with no open one. -/
  | unexpectedClosing (close : Char)
  /-- A closing bracket that does not fit the innermost open one. -/
  | mismatchedClosing (close opened : Char)
  /-- The text ends while a bracket inside the arguments is open. -/
  | neverClosed (opened : Char)
  /-- The text ends before the parenthesis of the call is closed. -/
  | missingParenthesis
  /-- The arguments end inside an array. -/
  | unterminatedList (close : Char)
  /-- Something other than a comma follows a value. -/
  | expectedComma (found : Char)
  /-- No value starts with this character. -/
  | unexpectedCharacter (found : Char)
  /-- The arguments end where a value has to stand. -/
  | expectedValue
  /-- A sign or a point without a digit. -/
  | invalidNumber (text : String)
  /-- A number runs into another character. -/
  | afterNumber (found : Char) (text : String)
  /-- An integer outside the 64-bit range. -/
  | integerRange (text : String) (overflow : Overflow)
  /-- A bare word that is not a truth value. -/
  | unexpectedWord (word : String)
  /-- No object key starts with this character. -/
  | expectedKey (found : Char)
  /-- The arguments end inside an object. -/
  | unterminatedObject
  /-- A key without its colon. -/
  | expectedColon (key : String)
  /-- A key twice in one object. -/
  | duplicateKey (key : String)
  /-- Something other than a comma or a closing brace follows a field. -/
  | expectedFieldEnd (found : Char)
  /-- An element of an array whose shape differs from that of the first one. -/
  | mixedArray (expected found : Shape)
deriving DecidableEq

/-- A malformed directive: the cause and the line, counted from 1. -/
structure SyntaxError where
  line : Nat
  cause : SyntaxError.Cause
deriving DecidableEq

/-- The description of a cause. -/
def SyntaxError.Cause.message : SyntaxError.Cause → String
  | .unterminatedString => "unterminated string literal"
  | .unexpectedClosing close => s!"unexpected `{close}` in directive arguments"
  | .mismatchedClosing close opened => s!"mismatched `{close}`: expected closing for `{opened}`"
  | .neverClosed opened => s!"unterminated directive: `{opened}` is never closed"
  | .missingParenthesis => "unterminated directive: missing `)`"
  | .unterminatedList close => s!"unterminated list: expected `{close}`"
  | .expectedComma found => s!"expected `,` but found `{found}`"
  | .unexpectedCharacter found => s!"unexpected character `{found}`"
  | .expectedValue => "expected a value"
  | .invalidNumber text => s!"invalid number `{text}`"
  | .afterNumber found text => s!"unexpected `{found}` after number `{text}`"
  | .integerRange text .tooLarge =>
    s!"invalid integer `{text}`: number too large to fit in target type"
  | .integerRange text .tooSmall =>
    s!"invalid integer `{text}`: number too small to fit in target type"
  | .unexpectedWord word => s!"unexpected identifier `{word}` (strings must be quoted)"
  | .expectedKey found => s!"expected object key, found `{found}`"
  | .unterminatedObject => "unterminated object: expected `\x7d`"
  | .expectedColon key => s!"expected `:` after key `{key}`"
  | .duplicateKey key => s!"duplicate key `{key}` in object"
  | .expectedFieldEnd found => "expected `,` or `\x7d` but found `" ++ toString found ++ "`"
  | .mixedArray expected found =>
    "mixed-type array: expected " ++ expected.display ++ " elements, found " ++ found.display

/-- The line and the description. -/
def SyntaxError.message (e : SyntaxError) : String :=
  s!"line {e.line}: {e.cause.message}"

end CourseSite.Directive
