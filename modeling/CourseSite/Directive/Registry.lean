/-
  The extensions that a document can call, by name without regard to case.

  * `Registry`: extensions under their lower-cased names, the last one registered
    under a name in effect.
  * `Registry.invoke`: the text that replaces a call.
  * `Registry.expand`: a document with every call replaced.
  * `DirectiveError`: why a document cannot be expanded.
-/
import CourseSite.Directive.Extension
import CourseSite.Text.Case

namespace CourseSite.Directive

/-! ## Registration -/

/-- Extensions, each under its lower-cased name. -/
structure Registry where
  entries : List (String × Extension)

namespace Registry

/-- No extensions. -/
def empty : Registry := ⟨[]⟩

/-- The entries with one key set. -/
def putEntry (key : String) (extension : Extension) :
    List (String × Extension) → List (String × Extension)
  | [] => [(key, extension)]
  | (other, old) :: entries =>
    if other = key then (key, extension) :: entries
    else (other, old) :: putEntry key extension entries

/-- The registry with an extension that replaces one of the same name. -/
def register (registry : Registry) (extension : Extension) : Registry :=
  ⟨putEntry (Text.lower extension.name) extension registry.entries⟩

/-- The registry with some extensions registered in order. -/
def registerAll (registry : Registry) (extensions : List Extension) : Registry :=
  extensions.foldl register registry

/-- The extension of a name, without regard to case. -/
def resolve? (registry : Registry) (name : String) : Option Extension :=
  (registry.entries.find? (·.1 == Text.lower name)).map (·.2)

/-- The number of extensions. -/
def size (registry : Registry) : Nat := registry.entries.length

/-- The names as they were registered, in ascending order. -/
def names (registry : Registry) : List String :=
  (registry.entries.map (·.2.name)).mergeSort (· ≤ ·)

end Registry

/-! ## Errors -/

/-- Why a document cannot be expanded. -/
inductive DirectiveError where
  | malformed (error : SyntaxError)
  | unknown (name : String) (line : Nat)
  | binding (error : BindingError)
  | failed (name : String) (line : Nat) (failure : Failure)

namespace DirectiveError

/-- The text of an error. -/
def message : DirectiveError → String
  | .malformed error => "directive syntax error at " ++ error.message
  | .unknown name line => s!"line {line}: unknown directive @{name}"
  | .binding error => error.message
  | .failed name line failure => s!"line {line}: @{name} failed: {failure.message}"

/-- The line of an error. -/
def line : DirectiveError → Nat
  | .malformed error => error.line
  | .unknown _ line => line
  | .binding error => error.line
  | .failed _ line _ => line

end DirectiveError

/-- How an expansion stops short: by an error, or by an extension that crashes. -/
inductive Interruption where
  | error (error : DirectiveError)
  | crash

/-! ## Expansion -/

namespace Registry

/-- The text that replaces a call on a page. -/
def invoke (registry : Registry) (fs : FileSystem) (page : PageInfo) (call : Call) :
    Except Interruption String :=
  match registry.resolve? call.name with
  | none => .error (.error (.unknown call.name call.line))
  | some extension =>
    match bindArguments call extension.signatures with
    | .error error => .error (.error (.binding error))
    | .ok arguments =>
      match extension.reply fs { page with line := call.line } arguments with
      | .text text => .ok text
      | .failure failure => .error (.error (.failed call.name call.line failure))
      | .crash => .error .crash

/-- The text of segments, every call replaced in order. -/
def expandSegments (registry : Registry) (fs : FileSystem) (page : PageInfo) :
    List Segment → Except Interruption String
  | [] => .ok ""
  | .literal text :: segments =>
    (expandSegments registry fs page segments).map (text ++ ·)
  | .call call :: segments =>
    match registry.invoke fs page call with
    | .error interruption => .error interruption
    | .ok text => (expandSegments registry fs page segments).map (text ++ ·)

/-- A document with every call replaced; nothing is called unless all of it is
    well formed. -/
def expand (registry : Registry) (fs : FileSystem) (page : PageInfo) (source : String) :
    Except Interruption String :=
  match Segment.parse source with
  | .error error => .error (.error (.malformed error))
  | .ok segments => registry.expandSegments fs page segments

end Registry

end CourseSite.Directive
