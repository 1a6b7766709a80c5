/-
  Where a build writes, seen from its output directory.

  * `target_output`: the page files lie below the output directory.
  * `target_gathered`: a file of aggregated pages lies where its name leads from the directory of
    the aggregate page, or from the root if the name is an absolute path.
  * `Confines`: the name leads from no aggregate page out of the output directory;
    `outputs_prefix_iff`: just then all files of all builds lie below their output directories.
-/
import CourseSite.Languages.Common
import CourseSite.Proofs.Content.Addresses
import CourseSite.Proofs.Site.Plan
import CourseSite.Site.Session

namespace CourseSite

open FileSystem (goTo staysWithin)

namespace ContentTree

variable {reader : Yaml.Reader} {fs files : FileSystem} {format : ContentFormat} {root : Path}
  {tree : ContentTree} {node parent : Node} {fileName : String}

/-! ## Page files and aggregate files -/

/-- A page file lies below the output directory. -/
theorem target_output (loaded : load reader fs format root = .ok tree)
    (hnode : tree.node? node.id = some node) (files : FileSystem) (outputRoot : Path) :
    files.target (outputRoot.join node.page.output) =
      files.target outputRoot ++ (tree.slugsOf format node ++ ["index.html"]) := by
  have hslugs := isComponent_of_mem_slugsOf loaded hnode
  rw [output_eq loaded hnode, FileSystem.target_join_intercalate files outputRoot
    (Path.isComponent_of_mem_concat hslugs Path.isComponent_index)]

/-- The directory of a page file. -/
theorem parent?_output (loaded : load reader fs format root = .ok tree)
    (hnode : tree.node? node.id = some node) :
    node.page.output.parent? = some ⟨"/".intercalate (tree.slugsOf format node)⟩ := by
  rw [output_eq loaded hnode, Path.parent?_intercalate (isComponent_of_mem_slugsOf loaded hnode)
    Path.isComponent_index]

/-- The file of the pages below an aggregate page lies where its name leads. -/
theorem target_gathered (loaded : load reader fs format root = .ok tree)
    (hparent : tree.node? parent.id = some parent) (files : FileSystem) (outputRoot : Path) :
    files.target (outputRoot.join ((parent.page.output.parent?.getD ⟨""⟩).join ⟨fileName⟩)) =
      (Path.names ⟨fileName⟩).foldl goTo
        (if Path.isAbsolute ⟨fileName⟩ then []
        else files.target outputRoot ++ tree.slugsOf format parent) := by
  have hslugs := isComponent_of_mem_slugsOf loaded hparent
  rw [parent?_output loaded hparent, Option.getD_some]
  cases habsolute : Path.isAbsolute ⟨fileName⟩ with
  | true =>
    rw [Path.join_of_isAbsolute habsolute, Path.join_of_isAbsolute habsolute, FileSystem.target,
      FileSystem.start, habsolute]; rfl
  | false =>
    have hrelative : (Path.join ⟨"/".intercalate (tree.slugsOf format parent)⟩ ⟨fileName⟩).isAbsolute =
        false := by
      rw [Path.isAbsolute_join habsolute, Path.isAbsolute_intercalate hslugs]
    rw [FileSystem.target_join files hrelative, Path.foldl_goTo_join habsolute,
      ← FileSystem.target_join files (Path.isAbsolute_intercalate hslugs),
      FileSystem.target_join_intercalate files outputRoot hslugs]; rfl

/-! ## Names that stay in the output directory -/

/-- The name is no absolute path, and from no aggregate page with documents below it does it ever
    lead out of the output directory. -/
def Confines (tree : ContentTree) (fileName : String) : Prop :=
  ∀ parent ∈ tree.nodes, parent.page.isAggregate = true → tree.documents parent ≠ [] →
    Path.isAbsolute ⟨fileName⟩ = false ∧
      staysWithin (tree.depth parent) (Path.names ⟨fileName⟩) = true

/-- A name that stands for itself stays in the directory. -/
theorem confines_of_isComponent (tree : ContentTree) (h : Path.IsComponent fileName) :
    tree.Confines fileName := by
  refine fun parent _ _ _ => ⟨h.isAbsolute_eq, ?_⟩
  rw [h.names_eq, staysWithin, if_neg (by simp [h.ne_empty, h.ne_dot]), if_neg h.ne_dots]; rfl

theorem exists_isComponent_not_mem (names : List String) :
    ∃ name, Path.IsComponent name ∧ name ∉ names := by
  -- Longer than all of them, and than the names that do not stand for themselves.
  let count := names.foldl (fun n name => max n name.length) 2 + 1
  obtain ⟨hstart, hnames⟩ := FileSystem.le_foldl_max String.length names 2
  have hlength : (String.ofList (List.replicate count 'a')).length = count := by simp
  have hne {name : String} (h : name.length < count) :
      String.ofList (List.replicate count 'a') ≠ name := fun heq => by
    rw [← heq, hlength] at h; exact Nat.lt_irrefl _ h
  have hshort {name : String} (h : name.length ≤ 2) :
      String.ofList (List.replicate count 'a') ≠ name := hne (by omega)
  refine ⟨String.ofList (List.replicate count 'a'), ⟨hshort (by decide), hshort (by decide),
    hshort (by decide), fun c hc => ?_⟩, fun hm => hne (Nat.lt_succ_of_le (hnames _ hm)) rfl⟩
  rw [String.toList_ofList] at hc
  rw [List.eq_of_mem_replicate hc]; decide

variable {build : Build}

/-- The file of a page lies below the output directory if it is its own, or if the name stays
    there. -/
theorem prefix_target_fileOf (loaded : load reader fs format root = .ok build.site.tree)
    (hwriter : build.site.tree.IsWriter node)
    (h : build.site.tree.gatherer? node = none ∨ build.site.tree.Confines fileName)
    (files : FileSystem) :
    files.target build.site.outputRoot <+: files.target (build.fileOf fileName node) := by
  rw [Build.fileOf]
  cases hg : build.site.tree.gatherer? node with
  | none =>
    dsimp only
    rw [target_output loaded hwriter.known]; exact List.prefix_append ..
  | some parent =>
    have confines := h.resolve_left (by rw [hg]; exact Option.some_ne_none parent)
    obtain ⟨hup, haggregate⟩ := gatherer?_eq_some_iff.1 hg
    obtain ⟨-, hparent⟩ := (numbered_of_load loaded).parent?_eq_some_iff.1 hup
    have hdocuments : build.site.tree.documents parent ≠ [] := fun hnil => by
      have hlast := hwriter.last parent hg
      rw [hnil] at hlast; cases hlast
    obtain ⟨hrelative, hstays⟩ := confines parent (List.mem_of_getElem? hparent) haggregate
      hdocuments
    dsimp only
    rw [target_gathered loaded hparent, hrelative, if_neg (by decide)]
    refine FileSystem.prefix_of_staysWithin ?_
    rwa [slugsOf, List.length_map, length_descent]

/-- The last document below an aggregate page is written to its file. -/
theorem isWriter_of_getLast? (numbered : tree.Numbered)
    (hparent : tree.node? parent.id = some parent) (haggregate : parent.page.isAggregate = true)
    (hlast : (tree.documents parent).getLast? = some node) :
    tree.IsWriter node ∧ tree.gatherer? node = some parent := by
  obtain ⟨hnode, hp, hvirtual⟩ := (numbered.mem_documents_iff hparent).1 (List.mem_of_getLast? hlast)
  have hg : tree.gatherer? node = some parent :=
    gatherer?_eq_some_iff.2 ⟨numbered.parent?_eq_some_iff.2 ⟨hp, hparent⟩, haggregate⟩
  refine ⟨⟨hnode, hvirtual, fun parent' hg' => ?_⟩, hg⟩
  rw [hg] at hg'; cases hg'; exact hlast

/-- A build of a tree into a directory of the root. -/
def buildInto (tree : ContentTree) (name : String) : Build where
  site := ⟨tree, .empty, .null, ⟨"/" ++ name⟩⟩
  pipeline := .standard .plain "" ""
  workers := 1
  reports := false
  cancelsAt _ _ := false

theorem target_root {name : String} (h : Path.IsComponent name) (files : FileSystem) :
    files.target ⟨"/" ++ name⟩ = [name] := by
  have hstart : files.start ⟨"/" ++ name⟩ = [] := by
    rw [FileSystem.start, Path.isAbsolute, String.toList_append]; rfl
  have hnames : Path.names ⟨"/" ++ name⟩ = ["", name] := by
    have happend := Path.names_append_slash "" name
    rwa [String.empty_append, h.names_eq] at happend
  rw [FileSystem.target, hstart, hnames]
  exact FileSystem.goTo_of_isComponent h []

/-- **Files below the output directory.** All files of all builds of a tree lie there if and only
    if the name of the files of aggregated pages stays there. -/
theorem outputs_prefix_iff (loaded : load reader fs format root = .ok tree) :
    (∀ build : Build, build.site.tree = tree → ∀ files location,
      build.Outputs fileName files location → files.target build.site.outputRoot <+: location) ↔
    tree.Confines fileName := by
  constructor
  · intro h parent hmem haggregate hdocuments
    have numbered := numbered_of_load loaded
    have hparent := numbered.node?_of_mem hmem
    obtain ⟨last, hlast⟩ := Option.ne_none_iff_exists'.1
      fun hnone => hdocuments (List.getLast?_eq_none_iff.1 hnone)
    obtain ⟨hwriter, hg⟩ := isWriter_of_getLast? numbered hparent haggregate hlast
    obtain ⟨name, hname, hnot⟩ := exists_isComponent_not_mem (Path.names ⟨fileName⟩)
    have hstarts := h (tree.buildInto name) rfl .empty _ ⟨last, hwriter, rfl⟩
    rw [Build.fileOf, show (tree.buildInto name).site.tree = tree from rfl, hg] at hstarts
    dsimp only at hstarts
    rw [target_gathered loaded hparent, show (tree.buildInto name).site.outputRoot = ⟨"/" ++ name⟩
      from rfl, target_root hname] at hstarts
    cases habsolute : Path.isAbsolute ⟨fileName⟩ with
    | true =>
      rw [habsolute, if_pos rfl] at hstarts
      exact absurd (hstarts.mem (List.mem_singleton_self name))
        (FileSystem.not_mem_foldl_goTo hnot (by simp))
    | false =>
      rw [habsolute, if_neg (by decide), List.singleton_append] at hstarts
      refine ⟨rfl, Bool.eq_true_of_not_eq_false fun hleaves => ?_⟩
      refine FileSystem.not_prefix_of_staysWithin_eq_false hnot ?_ hstarts
      rwa [slugsOf, List.length_map, length_descent]
  · rintro confines build rfl files location ⟨node, hwriter, rfl⟩
    exact prefix_target_fileOf loaded hwriter (.inr confines) files

end ContentTree

/-! ## Sessions -/

namespace Session
variable {around : Settings.Surroundings} {file : Option Path}
  {overrides : Option Settings.Overrides} {cacheNumber : Nat} {session : Session}

/-- The tree of a session is loaded as its settings say. -/
theorem tree_eq (h : load around file overrides cacheNumber = .ok session) :
    ContentTree.load around.languages.yaml around.files session.settings.format
      session.settings.sourceDirectory = .ok session.tree := by
  unfold load ofSettings at h
  cases hsettings : Settings.load around file overrides with
  | error => rw [hsettings] at h; cases h
  | ok settings =>
    rw [hsettings] at h
    dsimp only at h
    cases htree : ContentTree.load around.languages.yaml around.files settings.format
      settings.sourceDirectory with
    | error => rw [htree] at h; cases h
    | ok tree => rw [htree] at h; cases h; exact htree

/-- **Where builds write.**  Take a session of any settings that are accepted, a build of its tree
    into any directory through the standard pipeline, and any history of this build.

    * A page that is about to be written to a file of its own is written below the output
      directory.
    * If the name of the files of aggregated pages stays in the output directory, then every page
      is written below it, and no file elsewhere is changed or made.
    * All files of all builds lie below their output directories only if the name stays there:
      the settings are accepted with any other name as well. -/
theorem confinement (loaded : load around file overrides cacheNumber = .ok session) :
    (∀ (build : Build) (renderer : Renderer) (separator : String),
      build.site.tree = session.tree →
      build.Standard renderer session.settings.aggregateFile separator →
      ∀ (workspace : Workspace) (cancelled : Bool) (past : List BuildState) (state : BuildState),
        build.History (build.start workspace cancelled) (state :: past) →
        (∀ job : Job, .working job (build.movesFrom .writing) ∈ state.workers →
          session.tree.gatherer? job.node = none ∨
            session.tree.Confines session.settings.aggregateFile →
          workspace.files.target build.site.outputRoot <+:
            state.workspace.files.target (job.outputFile build.site)) ∧
        (session.tree.Confines session.settings.aggregateFile →
          ∀ (location : Location) (data : ByteArray), ¬ workspace.files.target build.site.outputRoot <+: location →
            ( state.workspace.files.entry? location = some (.file data) ↔
              workspace.files.entry? location = some (.file data)))) ∧
    ((∀ build : Build, build.site.tree = session.tree → ∀ files location,
      build.Outputs session.settings.aggregateFile files location →
        files.target build.site.outputRoot <+: location) ↔
      session.tree.Confines session.settings.aggregateFile) := by
  have htree := tree_eq loaded
  refine ⟨fun build renderer separator hbuild standard workspace cancelled past state history =>
    ⟨fun job hjob h => ?_, fun confines location data hnot => ?_⟩,
    ContentTree.outputs_prefix_iff htree⟩
  all_goals
    rw [← hbuild] at htree
    have regular := Build.regular_of_load htree standard
    have hext := Build.extendedBy_of_history regular history
  · obtain ⟨worker, ha⟩ := List.mem_iff_getElem?.1 hjob
    obtain ⟨hwriter, hfile⟩ := Build.outputFile_of_writing regular history (by decide) ha
    rw [hext.target_eq, hfile]
    rw [← hbuild] at h
    exact ContentTree.prefix_target_fileOf htree hwriter h workspace.files
  · refine hext.file fun houtput => hnot ?_
    obtain ⟨node, hwriter, rfl⟩ := houtput
    rw [← hbuild] at confines
    exact ContentTree.prefix_target_fileOf htree hwriter (.inr confines) workspace.files

end Session

/-! ## A name that leads out, and one that does not -/

namespace Escape

/-- A page with a page below it that goes into the file `name`. -/
def around (name : String) : Settings.Surroundings where
  files :=
    { entries :=
        [(["cw.toml"], .file ("[build]\noutput_dir = \"site/pages\"\nrenderer = \"plain\"\n" ++
            "[aggregate]\nfile_name = \"" ++ name ++ "\"\n").toUTF8),
          (["content"], .directory),
          (["content", "manifest.yaml"], .file "[default, one]".toUTF8),
          (["content", "default.md"], .file "---\naggregate: true\n---\nHome".toUTF8),
          (["content", "one.md"], .file "One".toUTF8)]
      current := [] }
  environment := []
  processors := 1
  languages := .common

/-- The session of the course. -/
def session (name : String) : Session :=
  match Session.load (around name) none none 0 with
  | .ok session => session
  | .error _ => ⟨.common, Settings.default ⟨""⟩ 1, ⟨[], ⟨""⟩⟩, .empty, .null⟩

theorem loaded (name : String) (h : (Session.load (around name) none none 0).isOk = true) :
    Session.load (around name) none none 0 = .ok (session name) := by
  obtain ⟨loaded, hload⟩ := Attempt.exists_eq_ok h
  rw [session, hload]

/-- The build of the course into the directory of its settings. -/
def build (name : String) : Build :=
  (session name).build (session name).settings.outputDirectory false fun _ _ => false

/-- The workspace before the course was ever built. -/
def workspace (name : String) : Workspace :=
  .ofTree (session name).tree (around name).files .empty

/-- The course, built. -/
def built (name : String) : BuildState := (build name).run (workspace name) false

section
variable (name : String)

theorem standard : ∃ renderer, (build name).Standard renderer
    (session name).settings.aggregateFile (session name).settings.separator := ⟨_, rfl⟩

theorem tree_eq : (build name).site.tree = (session name).tree := by rw [build, Session.build]

theorem outputRoot_eq :
    (build name).site.outputRoot = (session name).settings.outputDirectory := by
  rw [build, Session.build]

theorem files_workspace : (workspace name).files = (around name).files := rfl

theorem history_built : ∃ past, (build name).History ((build name).start (workspace name) false)
    (built name :: past) := Build.exists_history_run _ _ _

end

end Escape

open Escape in
/-- With a plain name nothing outside the output directory is changed or made. -/
theorem confinement_all :
    (session "all.html").tree.Confines "all.html" ∧ ∀ (location : Location) (data : ByteArray),
      ¬ ["site", "pages"] <+: location →
        ( (built "all.html").workspace.files.entry? location = some (.file data) ↔
          (around "all.html").files.entry? location = some (.file data)) := by
  have hload := loaded "all.html" (by decide +kernel)
  have hname : (session "all.html").settings.aggregateFile = "all.html" := by decide +kernel
  have hroot : (around "all.html").files.target (session "all.html").settings.outputDirectory =
      ["site", "pages"] := by decide +kernel
  have confines : (session "all.html").tree.Confines "all.html" :=
    ContentTree.confines_of_isComponent _ (by decide)
  obtain ⟨renderer, standard⟩ := standard "all.html"
  obtain ⟨past, history⟩ := history_built "all.html"
  obtain ⟨hbuilds, -⟩ := Session.confinement hload
  obtain ⟨-, hfiles⟩ := hbuilds _ renderer _ (tree_eq _) standard _ _ _ _ history
  rw [hname, outputRoot_eq, files_workspace, hroot] at hfiles
  exact ⟨confines, hfiles confines⟩

open Escape in
/-- The settings are accepted with a name that leads upwards, and the build completes and writes
    a file that does not lie below its output directory. -/
theorem escapes_output_directory :
    Session.load (around "../escaped.html") none none 0 = .ok (session "../escaped.html") ∧
      (session "../escaped.html").settings.outputDirectory = ⟨"/site/pages"⟩ ∧
      (build "../escaped.html").outcome (built "../escaped.html") = .ok (.completed ⟨2, 2, 0⟩) ∧
      (around "../escaped.html").files.exists? ⟨"/site/escaped.html"⟩ = false ∧
      (built "../escaped.html").workspace.files.readText ⟨"/site/escaped.html"⟩ = .ok "One" ∧
      ¬ (around "../escaped.html").files.target ⟨"/site/pages"⟩ <+:
        (around "../escaped.html").files.target ⟨"/site/escaped.html"⟩ := by
  have houtcome : ((build "../escaped.html").outcome (built "../escaped.html")).toOption.map
      (fun outcome => (outcome.isCancelled, outcome.stats)) = some (false, ⟨2, 2, 0⟩) := by
    decide +kernel
  have htext : ((built "../escaped.html").workspace.files.readText
      ⟨"/site/escaped.html"⟩).toOption = some "One" := by decide +kernel
  refine ⟨loaded _ (by decide +kernel), by decide +kernel, ?_, by decide +kernel, ?_,
    by decide +kernel⟩
  · generalize (build "../escaped.html").outcome (built "../escaped.html") = outcome at houtcome
    rcases outcome with _ | (stats | stats) <;> cases houtcome
    rfl
  · generalize (built "../escaped.html").workspace.files.readText _ = text at htext
    cases text <;> cases htext
    rfl

end CourseSite
