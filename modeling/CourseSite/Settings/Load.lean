/-
  Reading the settings of a site.

  The settings file is the one asked for, or else `cw.toml` in the current
  directory or the nearest one above it that has such a file.  What the file
  leaves open takes its default; overrides come last, and the outcome is checked.

  * `Settings.Error`: why there are no settings.
  * `Settings.Surroundings`: what settings depend on beside the file, and how it is read.
  * `Settings.ofFile`: the settings in a file.
  * `Settings.load`: the settings in effect.
-/
import CourseSite.Languages
import CourseSite.Settings.Basic
import CourseSite.Settings.Expansion

namespace CourseSite.Settings

/-! ## Errors -/

/-- Why a text is no settings file. -/
inductive Problem where
  | unreadable (reason : String)
  /-- A field or a section is of another type. -/
  | wrongType
deriving DecidableEq

/-- The text of a problem. -/
def Problem.message : Problem → String
  | .unreadable reason => reason
  | .wrongType => "invalid type"

/-- Why there are no settings. -/
inductive Error where
  | notFound (path : Path)
  | io (error : FileError)
  | malformed (problem : Problem)
  | invalid (violation : Violation)
  /-- A field refers to a variable that is not set. -/
  | unset (field name : String)
deriving DecidableEq

/-- The text of an error. -/
def Error.message : Error → String
  | .notFound path => "Configuration file not found: " ++ path.text
  | .io error => "I/O error: " ++ error.message
  | .malformed problem => "TOML parse error: " ++ problem.message
  | .invalid violation => "Configuration error: " ++ violation.message
  | .unset field name =>
    "Environment variable error in " ++ field ++ ": $\x7b" ++ name ++ "\x7d not set"

/-! ## The file -/

/-- A field of a section.  A section may also be a list, with its fields in order. -/
def field? (position : Nat) (name : String) : Option Toml.Value →
    Except Problem (Option Toml.Value)
  | none => .ok none
  | some (.table table) => .ok (Toml.Table.get? table name)
  | some (.list items) => .ok items[position]?
  | some (.scalar _) => .error .wrongType

/-- A field that is a text, if it is there. -/
def text? (section? : Option Toml.Value) (position : Nat) (name : String) :
    Except Problem (Option String) := do
  match ← field? position name section? with
  | none => return none
  | some (.scalar (.string text)) => return some text
  | some _ => throw .wrongType

/-- A field that is a truth value, if it is there. -/
def truth? (section? : Option Toml.Value) (position : Nat) (name : String) :
    Except Problem (Option Bool) := do
  match ← field? position name section? with
  | none => return none
  | some (.scalar (.boolean b)) => return some b
  | some _ => throw .wrongType

/-- A field that is a number of 64 bits without a sign, if it is there. -/
def count? (section? : Option Toml.Value) (position : Nat) (name : String) :
    Except Problem (Option Nat) := do
  match ← field? position name section? with
  | none => return none
  | some (.scalar (.integer n)) =>
    if 0 ≤ n ∧ n < 0x10000000000000000 then return some n.toNat else throw .wrongType
  | some _ => throw .wrongType

/-- What a settings file says. -/
structure Contents where
  sourceDirectory : Option String
  cacheEnabled : Option Bool
  manifest : Option String
  extension : Option String
  outputDirectory : Option String
  workers : Option Nat
  renderer : Option String
  aggregateFile : Option String
  separator : Option String

/-- What the table of a settings file says.  Unknown sections and fields are ignored. -/
def Contents.ofTable (table : Toml.Table) : Except Problem Contents := do
  let docs := table.get? "docs"
  let content := table.get? "content"
  let build := table.get? "build"
  let aggregate := table.get? "aggregate"
  return {
    sourceDirectory := ← text? docs 0 "source_dir"
    cacheEnabled := ← truth? docs 1 "cache_enabled"
    manifest := ← text? content 0 "manifest"
    extension := ← text? content 1 "extension"
    outputDirectory := ← text? build 0 "output_dir"
    workers := ← count? build 1 "max_concurrency"
    renderer := ← text? build 2 "renderer"
    aggregateFile := ← text? aggregate 0 "file_name"
    separator := ← text? aggregate 1 "separator" }

/-- The contents of a settings file. -/
def Contents.parse (reader : Toml.Reader) (text : String) : Except Problem Contents :=
  match reader text with
  | .error reason => .error (.unreadable reason)
  | .ok table => ofTable table

/-- The value of a field with its references replaced. -/
def expandField (environment : Environment) (field text : String) : Except Error String :=
  match expand environment text with
  | .ok text => .ok text
  | .error name => .error (.unset field name)

/-- The value of an optional field with its references replaced. -/
def expandField? (environment : Environment) (field : String) (text : Option String) :
    Except Error (Option String) :=
  match text with
  | none => .ok none
  | some text => (expandField environment field text).map some

/-- What a settings file says, with the defaults of a directory. -/
def Contents.resolve (contents : Contents) (environment : Environment) (base : Path)
    (processors : Nat) : Except Error Settings := do
  let fallback := Settings.default base processors
  let source ← expandField? environment "docs.source_dir" contents.sourceDirectory
  let output ← expandField? environment "build.output_dir" contents.outputDirectory
  let file ← expandField environment "aggregate.file_name"
    (contents.aggregateFile.getD fallback.aggregateFile)
  let renderer ← match contents.renderer with
    | none => .ok .html
    | some name =>
      match renderer? name with
      | .ok renderer => .ok renderer
      | .error violation => .error (.invalid violation)
  return {
    sourceDirectory := (source.map fun text => base.join ⟨text⟩).getD fallback.sourceDirectory
    cacheEnabled := contents.cacheEnabled.getD fallback.cacheEnabled
    format := ⟨contents.manifest.getD fallback.format.manifest,
      contents.extension.getD fallback.format.extension⟩
    outputDirectory := (output.map fun text => base.join ⟨text⟩).getD fallback.outputDirectory
    workers := contents.workers.getD fallback.workers
    renderer := renderer
    aggregateFile := file
    separator := contents.separator.getD fallback.separator
    file := none }

/-! ## Loading -/

/-- What settings depend on beside the file, and how it is read. -/
structure Surroundings where
  files : FileSystem
  environment : Environment
  /-- The number of workers if nothing else is said. -/
  processors : Nat
  languages : Languages

/-- The settings in a file. -/
def ofFile (around : Surroundings) (path : Path) : Except Error Settings :=
  match around.files.readText path with
  | .error error => .error (.io error)
  | .ok text =>
    match Contents.parse around.languages.toml text with
    | .error problem => .error (.malformed problem)
    | .ok contents =>
      (contents.resolve around.environment (path.parent?.getD ⟨"."⟩) around.processors).map
        fun settings => { settings with file := some path }

/-- The name of the settings file. -/
def fileName : String := "cw.toml"

/-- The settings file of a directory or of the nearest one above it, given the names
    on the way to the directory, last one first. -/
def discoverFrom (files : FileSystem) : List String → Option Path
  | [] => here []
  | name :: names => (here (name :: names)).or (discoverFrom files names)
where
  /-- The settings file of one directory. -/
  here (names : List String) : Option Path :=
    let path := (Path.ofNames names.reverse).join ⟨fileName⟩
    if files.exists? path then some path else none

/-- The settings in effect: from the file asked for, or from the nearest one, or the
    defaults; then the overrides. -/
def load (around : Surroundings) (file : Option Path) (overrides : Option Overrides) :
    Except Error Settings := do
  let settings ← match file with
    | some path =>
      if around.files.exists? path then ofFile around path else .error (.notFound path)
    | none =>
      match discoverFrom around.files around.files.current.reverse with
      | some path => ofFile around path
      | none => .ok (Settings.default (Path.ofNames around.files.current) around.processors)
  let settings := settings.override (overrides.getD {})
  match settings.violation? with
  | some violation => .error (.invalid violation)
  | none => .ok settings

end CourseSite.Settings
