/-
  The settings of a site.

  * `Settings`: where the content is, where the site goes, and how it is made.
  * `Settings.default`: the settings below a directory that has no settings file.
  * `Settings.Overrides`: settings that take precedence.
  * `Settings.violation?`: the first rule that settings break.
-/
import CourseSite.Content.Load

namespace CourseSite

/-- How pages are rendered. -/
inductive RendererKind where
  | html
  | plain
deriving DecidableEq

/-- The settings of a site. -/
structure Settings where
  sourceDirectory : Path
  /-- Rendered pages are kept from one build to the next. -/
  cacheEnabled : Bool
  format : ContentFormat
  outputDirectory : Path
  workers : Nat
  renderer : RendererKind
  /-- The file that the texts of aggregated pages go to. -/
  aggregateFile : String
  /-- What stands between the texts of aggregated pages. -/
  separator : String
  /-- The file that the settings were read from. -/
  file : Option Path

namespace Settings

/-- The settings below a directory, with a number of workers. -/
def default (base : Path) (workers : Nat) : Settings where
  sourceDirectory := base.join ⟨"content"⟩
  cacheEnabled := true
  format := {}
  outputDirectory := base.join ⟨"site"⟩
  workers := workers
  renderer := .html
  aggregateFile := "all.html"
  separator := "\n\n"
  file := none

/-! ## Precedence -/

/-- Settings that take precedence over all others. -/
structure Overrides where
  sourceDirectory : Option Path := none
  outputDirectory : Option Path := none
  workers : Option Nat := none
  cacheEnabled : Option Bool := none

/-- The settings with some of them overridden; paths are taken as they are. -/
def override (settings : Settings) (overrides : Overrides) : Settings :=
  { settings with
    sourceDirectory := overrides.sourceDirectory.getD settings.sourceDirectory
    outputDirectory := overrides.outputDirectory.getD settings.outputDirectory
    workers := overrides.workers.getD settings.workers
    cacheEnabled := overrides.cacheEnabled.getD settings.cacheEnabled }

/-! ## Rules -/

/-- A rule that settings break. -/
inductive Violation where
  | empty (field : String)
  | extensionDot
  | noWorkers
  | unknownRenderer (name : String)
deriving DecidableEq

/-- The text of a violation. -/
def Violation.message : Violation → String
  | .empty field => field ++ " cannot be empty"
  | .extensionDot => "content.extension must not start with a dot"
  | .noWorkers => "build.max_concurrency must be greater than 0"
  | .unknownRenderer name =>
    "build.renderer must be \"html\" or \"plain\", got \"" ++ name ++ "\""

/-- The first rule that the settings break. -/
def violation? (settings : Settings) : Option Violation :=
  if settings.format.manifest = "" then some (.empty "content.manifest")
  else if settings.format.extension = "" then some (.empty "content.extension")
  else if settings.format.extension.toList.head? = some '.' then some .extensionDot
  else if settings.aggregateFile = "" then some (.empty "aggregate.file_name")
  else if settings.workers = 0 then some .noWorkers
  else none

/-- The renderer of a name, in letters of any case. -/
def renderer? (name : String) : Except Violation RendererKind :=
  let lower := String.ofList (name.toList.map Char.toLower)
  if lower = "html" then .ok .html
  else if lower = "plain" then .ok .plain
  else .error (.unknownRenderer lower)

end Settings

end CourseSite
