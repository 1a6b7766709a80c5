/-
  How a directive reads its bound arguments.

  * `ArgumentError`: an argument is absent, of another kind, or of another shape.
  * `BoundArguments.string`, `.integer`, `.float`, `.bool`, `.record`, `.array`:
    the argument of that kind at a position.
  * `Reader`: a typed reading of a JSON value; `BoundArguments.read` applies one
    to the JSON value of an argument.
-/
import CourseSite.Directive.Binding

namespace CourseSite.Directive

/-! ## Access by kind -/

/-- Why an argument cannot be read; positions count from 0. -/
inductive ArgumentError where
  | missing (index : Nat)
  | kind (index : Nat) (found : Kind) (expected : String)
  | shape (index : Nat) (expected : String)

/-- The text of an argument error. -/
def ArgumentError.message : ArgumentError → String
  | .missing index => s!"missing argument {index + 1}"
  | .kind index found expected => s!"argument {index + 1} is {found.name}, expected {expected}"
  | .shape index expected => s!"argument {index + 1} has unexpected shape: expected {expected}"

namespace BoundArguments

/-- The argument at a position, if the selection accepts it. -/
def select {α : Type} (arguments : BoundArguments) (index : Nat) (expected : String)
    (accept : Value → Option α) : Except ArgumentError α :=
  match arguments.values[index]? with
  | none => .error (.missing index)
  | some value =>
    match accept value with
    | some a => .ok a
    | none => .error (.kind index value.kind expected)

/-- The string at a position. -/
def string (arguments : BoundArguments) (index : Nat) : Except ArgumentError String :=
  arguments.select index "String" fun | .string text => some text | _ => none

/-- The integer at a position. -/
def integer (arguments : BoundArguments) (index : Nat) : Except ArgumentError Int64 :=
  arguments.select index "Integer" fun | .integer n => some n | _ => none

/-- The double at a position. -/
def float (arguments : BoundArguments) (index : Nat) : Except ArgumentError Double :=
  arguments.select index "Float" fun | .float x => some x | _ => none

/-- The truth value at a position. -/
def bool (arguments : BoundArguments) (index : Nat) : Except ArgumentError Bool :=
  arguments.select index "Bool" fun | .bool b => some b | _ => none

/-- The fields of the record at a position. -/
def record (arguments : BoundArguments) (index : Nat) : Except ArgumentError (Fields Value) :=
  arguments.select index "Record" fun | .object fields => some fields | _ => none

/-- The items of the array at a position. -/
def array (arguments : BoundArguments) (index : Nat) : Except ArgumentError (List Value) :=
  arguments.select index "Array" fun | .array items => some items | _ => none

end BoundArguments

/-! ## Access by shape -/

/-- A typed reading of JSON values: what it expects, and what it makes of a value. -/
structure Reader (α : Type) where
  expected : String
  read : Json → Option α

namespace Reader

/-- A whole number of 64 bits; a double is none, even without a fraction. -/
def integer : Reader Int64 :=
  ⟨"an integer", fun
    | .integer n =>
      if -0x8000000000000000 ≤ n ∧ n < 0x8000000000000000 then some (Int64.ofInt n) else none
    | _ => none⟩

/-- A number; a whole number is widened. -/
def float : Reader Double :=
  ⟨"a number", fun | .integer n => some (Double.ofInt n) | .float x => some x | _ => none⟩

/-- A string. -/
def string : Reader String := ⟨"a string", fun | .string text => some text | _ => none⟩

/-- A truth value. -/
def bool : Reader Bool := ⟨"a truth value", fun | .bool b => some b | _ => none⟩

/-- Any value, as JSON. -/
def json : Reader Json := ⟨"any value", some⟩

/-- An array whose items are all read. -/
def list {α : Type} (item : Reader α) : Reader (List α) :=
  ⟨"a list of " ++ item.expected, fun | .array items => items.mapM item.read | _ => none⟩

end Reader

/-- The argument at a position, read by the shape of its JSON value. -/
def BoundArguments.read {α : Type} (arguments : BoundArguments) (reader : Reader α) (index : Nat) :
    Except ArgumentError α :=
  match arguments.values[index]? with
  | none => .error (.missing index)
  | some value =>
    match reader.read value.toJson with
    | some a => .ok a
    | none => .error (.shape index reader.expected)

end CourseSite.Directive
