/-
  The extensions that answer directive calls.

  * `PageInfo`: what a page tells about itself to the directives on it.
  * `PageInfo.resolve?`: a path below the base directory of the page.
  * `Extension`: a name, the signatures it accepts, and its reply to a call.
  * `Failure`: why an extension refuses a call.
-/
import CourseSite.Directive.Arguments
import CourseSite.Files.FileSystem

namespace CourseSite.Directive

/-! ## The page around a call -/

/-- What a directive can know about its page. -/
structure PageInfo where
  title : String
  url : String
  /-- The file of the page, if it has one. -/
  source : Option Path
  /-- The directory that relative paths start from. -/
  baseDirectory : Path
  /-- The line of the call. -/
  line : Nat

/-- The location that a path leads to from the base directory, if it exists there
    or below: the names of the base directory have to come first. -/
def PageInfo.resolve? (page : PageInfo) (fs : FileSystem) (relative : String) : Option Location :=
  match fs.follow (page.baseDirectory.join ⟨relative⟩), fs.follow page.baseDirectory with
  | .ok (location, _), .ok (base, _) => if base.isPrefixOf location then some location else none
  | _, _ => none

/-! ## Replies -/

/-- Why an extension refuses a call. -/
inductive Failure where
  /-- A bound argument is not what the extension reads. -/
  | argument (error : ArgumentError)
  /-- The width of an image is zero or less. -/
  | width (width : Double)
  /-- A file to include is not found below the base directory. -/
  | notIncluded (relative : String) (base : Path)
  /-- A file to include cannot be read. -/
  | unreadable (path : Path) (error : FileError)
  /-- A quiz without answers. -/
  | noAnswers
  /-- A quiz without a correct answer. -/
  | noCorrectAnswer
  /-- A reason in the words of the extension. -/
  | custom (message : String)

/-- The text of a failure. -/
def Failure.message : Failure → String
  | .argument error => error.message
  | .width x => "width must be positive, got " ++ x.render .plain
  | .notIncluded relative base =>
    "cannot include `" ++ relative ++ "`: not found under " ++ base.text
  | .unreadable path error => "cannot include `" ++ path.text ++ "`: " ++ error.message
  | .noAnswers => "a quiz needs at least one answer"
  | .noCorrectAnswer => "a quiz needs at least one correct answer"
  | .custom message => message

/-- What comes of a call: text, a refusal, or a crash of the extension. -/
inductive Reply where
  | text (text : String)
  | failure (failure : Failure)
  | crash

/-- The reply of an extension that does not crash. -/
def Reply.ofExcept : Except Failure String → Reply
  | .ok result => .text result
  | .error reason => .failure reason

/-- An extension. -/
structure Extension where
  name : String
  signatures : List Signature
  reply : FileSystem → PageInfo → BoundArguments → Reply

end CourseSite.Directive
