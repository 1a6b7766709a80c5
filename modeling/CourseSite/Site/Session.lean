/-
  A session: all that the builds of one course need.

  * `Session.ofSettings`: the session of some settings: the tree is loaded, and the
    built-in directives are registered.
  * `Session.build`: the build of a session for an output directory.
-/
import CourseSite.Directive.Builtin
import CourseSite.Site.Build

namespace CourseSite

/-- Settings, a loaded tree, and what its pages are read and built with. -/
structure Session where
  languages : Languages
  settings : Settings
  tree : ContentTree
  registry : Directive.Registry
  cache : CacheHandle

namespace Session

/-- The session of some settings, with a memory cache of its own if they ask for one. -/
def ofSettings (languages : Languages) (files : FileSystem) (settings : Settings)
    (cacheNumber : Nat) : Except BuildError Session :=
  match ContentTree.load languages.yaml files settings.format settings.sourceDirectory with
  | .error error => .error (.load error)
  | .ok tree =>
    .ok
      { languages := languages
        settings := settings
        tree := tree
        registry := Directive.Registry.empty.registerAll Directive.builtins
        cache := if settings.cacheEnabled then .memory cacheNumber else .null }

/-- The session of the settings that a file and overrides give. -/
def load (around : Settings.Surroundings) (file : Option Path)
    (overrides : Option Settings.Overrides) (cacheNumber : Nat) : Except BuildError Session :=
  match Settings.load around file overrides with
  | .error error => .error (.settings error)
  | .ok settings => ofSettings around.languages around.files settings cacheNumber

/-- The session with one more extension. -/
def register (session : Session) (extension : Directive.Extension) : Session :=
  { session with registry := session.registry.register extension }

/-- The session without any extension. -/
def resetRegistry (session : Session) : Session :=
  { session with registry := Directive.Registry.empty }

/-- The session as it is shown to programmers: what it was loaded from, and what its
    pages can use. -/
def describe (session : Session) : String :=
  "BuildSession \x7b source_dir: " ++ Text.quoted session.settings.sourceDirectory.text ++
    ", nodes: " ++ toString session.tree.size ++ ", extensions: " ++
    Text.quotedList session.registry.names ++ ", .. \x7d"

/-- The stages that the pages of the session pass. -/
def pipeline (session : Session) : Pipeline :=
  Pipeline.standard
    (match session.settings.renderer with
      | .html => Renderer.html session.languages.markdown true
      | .plain => Renderer.plain)
    session.settings.aggregateFile session.settings.separator

/-- A build into a directory. -/
def build (session : Session) (outputRoot : Path) (reports : Bool)
    (cancelsAt : Nat → Nat → Bool) : Build where
  site := ⟨session.tree, session.registry, session.cache, outputRoot⟩
  pipeline := session.pipeline
  workers := session.settings.workers
  reports := reports
  cancelsAt := cancelsAt

end Session

end CourseSite
