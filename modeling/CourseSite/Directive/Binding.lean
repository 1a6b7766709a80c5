/-
  Overload resolution: the first signature of the right arity whose parameter
  types accept every argument.

      argument   parameter   result
      Integer    Integer     bound as it is
      Integer    Float       widened
      Float      Float       bound as it is
      String     String      bound as it is
      Bool       Bool        bound as it is
      Object     record      every field bound to its declared type
      Array      array       every element bound to the element type

  Every other pair is rejected; a Float is never narrowed to an Integer.

  * `bindValue`: one value against one type, with the reason of a rejection.
  * `bindArguments`: the arguments of a call against a list of signatures.
  * `BindingError`: why no signature fits.
-/
import CourseSite.Directive.Segment
import CourseSite.Directive.Signature

namespace CourseSite.Directive

/-! ## Rejections -/

/-- Why a value does not fit a type. -/
inductive Rejection where
  /-- A double stands where an integer has to be. -/
  | narrowing
  /-- The kind of the value does not fit the type. -/
  | kind (expected : ParamType) (found : Kind)
  /-- The record has no such field. -/
  | unknownField (field record : String)
  /-- A required field is absent. -/
  | missingField (field record : String)
  /-- An element of an array does not fit. -/
  | element (index : Nat) (reason : Rejection)
  /-- A field of an object does not fit. -/
  | field (name : String) (reason : Rejection)

/-- The text of a rejection. -/
def Rejection.message : Rejection → String
  | .narrowing => "a Float is never narrowed to Integer"
  | .kind expected found => "expected " ++ expected.display ++ ", found " ++ found.name
  | .unknownField name record => "unknown field `" ++ name ++ "` for " ++ record
  | .missingField name record => "missing required field `" ++ name ++ "` for " ++ record
  | .element index reason => "element " ++ toString index ++ ": " ++ reason.message
  | .field name reason => "field `" ++ name ++ "`: " ++ reason.message

/-! ## Values -/

/-- The first fault of the keys of an object against a record: an unknown key, or
    else a required field that is absent. -/
def keyFault? (record : String) (schema : List Field) (fields : Fields Value) : Option Rejection :=
  match fields.keys.find? fun key => (fieldNamed? schema key).isNone with
  | some key => some (.unknownField key record)
  | none =>
    (schema.find? fun field => field.required && !fields.contains field.name).map fun field =>
      .missingField field.name record

mutual

/-- A value bound to a type: the value with every integer widened where the type
    asks for a double. -/
def bindValue : Value → ParamType → Except Rejection Value
  | .integer n, .integer => .ok (.integer n)
  | .integer n, .float => .ok (.float (Double.ofInt n.toInt))
  | .float x, .float => .ok (.float x)
  | .float _, .integer => .error .narrowing
  | .string text, .string => .ok (.string text)
  | .bool b, .bool => .ok (.bool b)
  | .array items, .array element => (bindItems element 0 items).map .array
  | .object fields, .record record schema =>
    match keyFault? record schema fields with
    | some fault => .error fault
    | none => (bindFields record schema fields).map fun bound => .object (Fields.collect bound)
  | value, type => .error (.kind type value.kind)

/-- The elements of an array from position `index` on, each bound to the type. -/
def bindItems (element : ParamType) (index : Nat) : List Value → Except Rejection (List Value)
  | [] => .ok []
  | item :: items =>
    match bindValue item element with
    | .error reason => .error (.element index reason)
    | .ok bound => (bindItems element (index + 1) items).map (bound :: ·)

/-- The fields of an object, each bound to its declared type. -/
def bindFields (record : String) (schema : List Field) :
    List (String × Value) → Except Rejection (List (String × Value))
  | [] => .ok []
  | (key, value) :: fields =>
    match fieldNamed? schema key with
    | none => .error (.unknownField key record)
    | some field =>
      match bindValue value field.type with
      | .error reason => .error (.field key reason)
      | .ok bound => (bindFields record schema fields).map ((key, bound) :: ·)

end

/-! ## Calls -/

/-- Why the arguments of a call fit no signature. -/
inductive BindingError.Cause where
  /-- No signature has the arity; the declared ones in ascending order. -/
  | arity (declared : List Nat) (given : Nat)
  /-- The argument at a position, counted from 0, does not fit its parameter. -/
  | argument (index : Nat) (value : Value) (param : Param) (reason : Rejection)

/-- The text of a cause. -/
def BindingError.Cause.message : BindingError.Cause → String
  | .arity declared given =>
    let expected :=
      match declared with
      | [] => "no signatures are declared"
      | arities => "expects " ++ " or ".intercalate (arities.map toString) ++ " argument(s)"
    expected ++ ", got " ++ toString given
  | .argument index value param reason =>
    "argument " ++ toString (index + 1) ++ " `" ++ value.display ++ "` does not match `" ++
      param.display ++ "`: " ++ reason.message

/-- A call whose arguments fit no signature of its directive. -/
structure BindingError where
  directive : String
  line : Nat
  cause : BindingError.Cause

/-- The text of a binding error. -/
def BindingError.message (e : BindingError) : String :=
  s!"line {e.line}: cannot bind arguments of @{e.directive}: {e.cause.message}"

/-- The arguments of a call as one signature accepts them. -/
structure BoundArguments where
  /-- The position of the signature that was chosen. -/
  signature : Nat
  values : List Value

/-- Arguments from position `index` on against as many parameters. -/
def bindParams (index : Nat) : List Param → List Value → Except BindingError.Cause (List Value)
  | param :: params, value :: values =>
    match bindValue value param.type with
    | .error reason => .error (.argument index value param reason)
    | .ok bound => (bindParams (index + 1) params values).map (bound :: ·)
  | _, _ => .ok []

/-- The signatures from position `index` on are tried in order; the first cause
    met among those of the right arity is kept for the case that none fits. -/
def bindFrom (arguments : List Value) (index : Nat) (cause : Option BindingError.Cause) :
    List Signature → Except (Option BindingError.Cause) BoundArguments
  | [] => .error cause
  | signature :: signatures =>
    if signature.arity = arguments.length then
      match bindParams 0 signature.params arguments with
      | .ok values => .ok ⟨index, values⟩
      | .error e => bindFrom arguments (index + 1) (cause.or (some e)) signatures
    else bindFrom arguments (index + 1) cause signatures

/-- The declared arities, each once and in ascending order. -/
def arities (signatures : List Signature) : List Nat :=
  ((signatures.map Signature.arity).mergeSort (· ≤ ·)).eraseReps

/-- The arguments of a call under the first signature that accepts them. -/
def bindArguments (call : Call) (signatures : List Signature) :
    Except BindingError BoundArguments :=
  match bindFrom call.arguments 0 none signatures with
  | .ok bound => .ok bound
  | .error cause =>
    .error ⟨call.name, call.line,
      cause.getD (.arity (arities signatures) call.arguments.length)⟩

end CourseSite.Directive
