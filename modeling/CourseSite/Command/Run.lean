/-
  What a command line does.

  * `Notice`: a line for the user.
  * `Report`: the outcome of a command: notices, text, exit code and files.
  * `settingsFiles`, `directories`: what a command line has to know of the disk.
  * `run`: the report of a command line.
-/
import CourseSite.Command.Arguments
import CourseSite.Site.Session

namespace CourseSite.Command

/-- A line for the user. -/
inductive Notice where
  | info (text : String)
  /-- All pages are built. -/
  | built (pages : Nat)
  | warning (text : String)
  | error (text : String)

/-- The text of a notice, without the time that a build took. -/
def Notice.text : Notice → String
  | .info text => text
  | .built pages => s!"Built {pages} pages"
  | .warning text => text
  | .error text => "Error: " ++ text

/-- The outcome of a command. -/
structure Report where
  exitCode : Nat
  output : String
  notices : List Notice
  files : FileSystem

/-- Why a command fails. -/
inductive Error where
  | settings (error : Settings.Error)
  | build (error : BuildError)
  | cancelled (processed total : Nat)

/-- The text of an error. -/
def Error.message : Error → String
  | .settings error => error.message
  | .build error => error.message
  | .cancelled processed total => s!"build cancelled after {processed} of {total} pages"

/-! ## Commands -/

/-- The settings that options override. -/
def BuildOptions.overrides (options : BuildOptions) : Settings.Overrides where
  sourceDirectory := options.sourceDirectory.map Path.mk
  outputDirectory := options.outputDirectory.map Path.mk
  workers := options.jobs
  cacheEnabled := if options.noCache then some false else none

/-- What is told about settings before a build. -/
def settingsNotices (settings : Settings) : List Notice :=
  [.info ("Source directory: " ++ settings.sourceDirectory.text),
    .info ("Output directory: " ++ settings.outputDirectory.text)] ++
    if settings.cacheEnabled then [] else [.info "Cache: disabled"]

/-- A command that failed behind some notices. -/
def failure (notices : List Notice) (error : Error) (files : FileSystem) : Report :=
  ⟨1, "", notices ++ [.error error.message], files⟩

/-- The site is built into the output directory of the settings. -/
def build (around : Settings.Surroundings) (options : BuildOptions) : Report :=
  match Settings.load around (options.config.map Path.mk) (some options.overrides) with
  | .error error => failure [] (.settings error) around.files
  | .ok settings =>
    let notices := settingsNotices settings
    match Session.ofSettings around.languages around.files settings 0 with
    | .error error => failure notices (.build error) around.files
    | .ok session =>
      let build := session.build settings.outputDirectory true fun _ _ => false
      let workspace := Workspace.ofTree session.tree around.files CacheStore.empty
      let state := build.run workspace false
      match build.outcome state with
      | .error error => failure notices (.build error) state.workspace.files
      | .ok (.cancelled stats) =>
        failure (notices ++ [.warning "Build interrupted"])
          (.cancelled stats.processed stats.total) state.workspace.files
      | .ok (.completed stats) =>
        ⟨0, "", notices ++ [.built stats.processed], state.workspace.files⟩

/-- The directives of an extension with their arguments, one line for each signature. -/
def usage (extension : Directive.Extension) : List Notice :=
  extension.signatures.map fun signature =>
    .info ("@" ++ extension.name ++ signature.display)

/-- The directives that pages can use. -/
def extensions (files : FileSystem) : Report :=
  let registry := Directive.Registry.empty.registerAll Directive.builtins
  ⟨0, "", (registry.names.filterMap registry.resolve?).flatMap usage, files⟩

/-- The name and the version of the program. -/
def versionLine : String := "cw 0.1.0\n"

/-- The variable that may hold the number of jobs. -/
def jobsVariable : String := "CW_JOBS"

/-- The settings files that a command line may read, seen from a directory. -/
def settingsFiles (current : Location) (words : List String) : List Path :=
  let named := match Request.parse none words with
    | .ok (.build options) => options.config.toList.map Path.mk
    | _ => []
  named ++ (List.range (current.length + 1)).map fun depth =>
    (Path.ofNames (current.take depth)).join ⟨Settings.fileName⟩

/-- The directories with the pages that a command line reads and with those it writes,
    once the settings files are known. -/
def directories (around : Settings.Surroundings) (words : List String) : List Path :=
  match Request.parse (around.environment.get? jobsVariable) words with
  | .ok (.build options) =>
    match Settings.load around (options.config.map Path.mk) (some options.overrides) with
    | .ok settings => [settings.sourceDirectory, settings.outputDirectory]
    | .error _ => []
  | _ => []

/-- The report of a command line. -/
def run (around : Settings.Surroundings) (words : List String) : Report :=
  match Request.parse (around.environment.get? jobsVariable) words with
  | .error error => ⟨2, "", [.error error.message], around.files⟩
  | .ok .version => ⟨0, versionLine, [], around.files⟩
  | .ok .help => ⟨0, "Usage: cw <build|extensions>\n", [], around.files⟩
  | .ok .extensions => extensions around.files
  | .ok (.build options) => build around options

end CourseSite.Command
