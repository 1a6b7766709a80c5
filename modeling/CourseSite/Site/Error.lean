/-
  Why a site cannot be built.

  * `PageError`: why one page cannot be built.
  * `BuildError`: why a build fails as a whole.
  * `ErrorKind`: what both are sorted into.
-/
import CourseSite.Content.Load
import CourseSite.Directive.Registry
import CourseSite.Settings.Load

namespace CourseSite

open Directive (DirectiveError)

/-- The kinds of errors. -/
inductive ErrorKind where
  | parse
  | unknownExtension
  | argumentBinding
  | extension
  | config
  | io
  | render
  | internal
deriving DecidableEq

/-- The kind of an error met in loading. -/
def LoadError.kind : LoadError → ErrorKind
  | .io .. => .io
  | .missingEntry _ => .io
  | .missingManifest _ => .config
  | .noEntries _ => .config
  | .invalid .. => .config

/-! ## Pages -/

/-- Why a page cannot be built. -/
inductive PageError where
  | directive (error : DirectiveError)
  /-- The document cannot be read. -/
  | source (error : LoadError)
  /-- The output cannot be written. -/
  | io (path : Path) (error : FileError)
  | render (reason : String)
  /-- A sibling that comes before the page failed. -/
  | siblingFailed

namespace PageError

/-- The text of an error. -/
def message : PageError → String
  | .directive error => error.message
  | .source error => error.message
  | .io path error => "I/O error at " ++ path.text ++ ": " ++ error.message
  | .render reason => "render failed: " ++ reason
  | .siblingFailed => "a preceding sibling failed"

/-- The kind of an error. -/
def kind : PageError → ErrorKind
  | .directive (.malformed _) => .parse
  | .directive (.unknown ..) => .unknownExtension
  | .directive (.binding _) => .argumentBinding
  | .directive (.failed ..) => .extension
  | .source error => error.kind
  | .io .. => .io
  | .render _ => .render
  | .siblingFailed => .internal

end PageError

/-! ## Builds -/

/-- Why a build fails. -/
inductive BuildError where
  | settings (error : Settings.Error)
  | load (error : LoadError)
  | page (url : String) (error : PageError)
  /-- A worker crashed. -/
  | worker

namespace BuildError

/-- The text of an error. -/
def message : BuildError → String
  | .settings error => error.message
  | .load error => error.message
  | .page url error => "failed to build " ++ url ++ ": " ++ error.message
  | .worker => "build worker panicked"

/-- The kind of an error. -/
def kind : BuildError → ErrorKind
  | .settings _ => .config
  | .load error => error.kind
  | .page _ error => error.kind
  | .worker => .internal

end BuildError

end CourseSite
