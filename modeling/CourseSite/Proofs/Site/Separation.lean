/-
  Which written files get into each other's way.

  * `ContentTree.Leads`: an entry of a name leads from a page to another one; `leads_iff`: just
    then a file of that name stands on the way to the directory of the other page.
  * `directoryOf`, `leafOf`: where a page is written; `target_fileOf`: its file has that name in
    that directory.
  * `prefix_fileOf_iff`: two written files are the same, or one stands on the way to the other.
  * `Separates`: no entry has the name of a file beside it, and the files of aggregated pages have
    another name than the page files; `apart_iff`: just then no two written files get into each
    other's way.
-/
import CourseSite.Command.Run
import CourseSite.Proofs.Site.Confinement

namespace CourseSite

namespace ContentTree

variable {reader : Yaml.Reader} {fs : FileSystem} {format : ContentFormat} {root : Path}
  {tree : ContentTree} {node other parent : Node} {name fileName : String}

/-! ## Entries on the way to a page -/

/-- An entry of that name leads from the page `parent` to the page `node` or on the way to it. -/
def Leads (tree : ContentTree) (format : ContentFormat) (parent : Node) (name : String)
    (node : Node) : Prop :=
  ∃ child ∈ tree.way node, child.parent = some parent.id ∧ format.slug child.page.name = name

instance : Decidable (tree.Leads format parent name node) :=
  inferInstanceAs (Decidable (∃ child ∈ tree.way node, _))

theorem not_leads_of_parent_eq_none (hp : node.parent = none) :
    ¬ tree.Leads format parent name node := by
  rintro ⟨child, hchild, hparent, -⟩
  rw [way_of_parent_eq_none hp, List.mem_singleton] at hchild
  subst hchild
  rw [hp] at hparent; cases hparent

theorem leads_of_parent {above : Node} (numbered : tree.Numbered)
    (hnode : tree.node? node.id = some node) (habove : tree.node? above.id = some above)
    (hp : node.parent = some above.id) :
    tree.Leads format parent name node ↔
      (above.id = parent.id ∧ format.slug node.page.name = name) ∨
        tree.Leads format parent name above := by
  unfold Leads
  rw [numbered.way_of_parent hnode habove hp]
  simp only [List.mem_append, List.mem_singleton]
  constructor
  · rintro ⟨child, hchild | rfl, hparent, hname⟩
    · exact .inr ⟨child, hchild, hparent, hname⟩
    · exact .inl ⟨Option.some.inj (hp.symm.trans hparent), hname⟩
  · rintro (⟨hid, hname⟩ | ⟨child, hchild, hparent, hname⟩)
    · exact ⟨node, .inr rfl, hid ▸ hp, hname⟩
    · exact ⟨child, .inl hchild, hparent, hname⟩

/-- An entry of that name leads to the page just if its address goes on from the other one with
    that name. -/
theorem leads_iff (loaded : load reader fs format root = .ok tree)
    (hparent : tree.node? parent.id = some parent) (hnode : tree.node? node.id = some node) :
    tree.slugsOf format parent ++ [name] <+: tree.slugsOf format node ↔
      tree.Leads format parent name node := by
  have numbered := numbered_of_load loaded
  refine numbered.induction (P := fun node =>
    tree.slugsOf format parent ++ [name] <+: tree.slugsOf format node ↔
      tree.Leads format parent name node)
    (fun node _ hp => ?_) (fun above node habove hnode hp ih => ?_) hnode
  · rw [slugsOf_of_parent_eq_none hp, List.prefix_nil]
    exact iff_of_false (by simp) (not_leads_of_parent_eq_none hp)
  · rw [slugsOf_of_parent numbered hnode habove hp, List.prefix_concat_iff, ih,
      leads_of_parent numbered hnode habove hp]
    refine or_congr_left ⟨fun heq => ?_, fun ⟨hid, hname⟩ => ?_⟩
    · obtain ⟨hslugs, hname⟩ := List.append_inj' heq rfl
      obtain rfl := eq_of_slugsOf_eq loaded hparent habove hslugs
      exact ⟨rfl, (List.singleton_inj.1 hname).symm⟩
    · rw [hid, hparent] at habove
      cases habove
      rw [hname]

theorem not_leads_self (loaded : load reader fs format root = .ok tree)
    (hnode : tree.node? node.id = some node) : ¬ tree.Leads format node name node := by
  intro h
  have hlength := ((leads_iff loaded hnode hnode).2 h).length_le
  rw [List.length_append, List.length_singleton] at hlength
  exact Nat.not_succ_le_self _ hlength

/-! ## Written files -/

/-- The page in whose directory a page is written: the page itself, or the aggregate page that
    gathers it. -/
def directoryOf (tree : ContentTree) (node : Node) : Node := (tree.gatherer? node).getD node

/-- The name of the file that a page is written to. -/
def leafOf (tree : ContentTree) (fileName : String) (node : Node) : String :=
  if (tree.gatherer? node).isSome then fileName else "index.html"

theorem directoryOf_of_gatherer?_eq_none (h : tree.gatherer? node = none) :
    tree.directoryOf node = node := by rw [directoryOf, h]; rfl

theorem leafOf_of_gatherer?_eq_none (h : tree.gatherer? node = none) :
    tree.leafOf fileName node = "index.html" := by rw [leafOf, h]; rfl

theorem node?_directoryOf (numbered : tree.Numbered) (hnode : tree.node? node.id = some node) :
    tree.node? (tree.directoryOf node).id = some (tree.directoryOf node) := by
  rw [directoryOf]
  cases hg : tree.gatherer? node with
  | none => exact hnode
  | some parent => exact (numbered.parent?_eq_some_iff.1 (gatherer?_eq_some_iff.1 hg).1).2

variable {build : Build}

/-- A written file has its name in its directory, if it is a page file or the files of aggregated
    pages have a plain name. -/
theorem target_fileOf (loaded : load reader fs format root = .ok build.site.tree)
    (hnode : build.site.tree.node? node.id = some node)
    (h : build.site.tree.gatherer? node = none ∨ Path.IsComponent fileName) (files : FileSystem) :
    files.target (build.fileOf fileName node) =
      files.target build.site.outputRoot ++
        (build.site.tree.slugsOf format (build.site.tree.directoryOf node) ++
          [build.site.tree.leafOf fileName node]) := by
  have hdirectory := node?_directoryOf (numbered_of_load loaded) hnode
  rw [Build.fileOf, leafOf]
  rw [directoryOf] at hdirectory ⊢
  cases hg : build.site.tree.gatherer? node with
  | none => exact target_output loaded hnode files build.site.outputRoot
  | some parent =>
    have hname := h.resolve_left (by rw [hg]; exact Option.some_ne_none parent)
    rw [hg, Option.getD_some] at hdirectory
    dsimp only
    rw [Option.getD_some, target_gathered loaded hdirectory, hname.isAbsolute_eq,
      if_neg (by decide), hname.names_eq,
      FileSystem.foldl_goTo_of_isComponent (List.forall_mem_singleton.2 hname), List.append_assoc]
    rfl

/-- **Files in each other's way.**  A written file stands on the way to another one, or is the
    same, just if both have one name in one directory, or an entry of its name leads from its
    directory to that of the other one. -/
theorem prefix_fileOf_iff (fileName : String)
    (loaded : load reader fs format root = .ok build.site.tree)
    (hnode : build.site.tree.node? node.id = some node)
    (hother : build.site.tree.node? other.id = some other)
    (h : (build.site.tree.gatherer? node = none ∧ build.site.tree.gatherer? other = none) ∨
      Path.IsComponent fileName) (files : FileSystem) :
    files.target (build.fileOf fileName node) <+: files.target (build.fileOf fileName other) ↔
      (build.site.tree.directoryOf node = build.site.tree.directoryOf other ∧
        build.site.tree.leafOf fileName node = build.site.tree.leafOf fileName other) ∨
      build.site.tree.Leads format (build.site.tree.directoryOf node)
        (build.site.tree.leafOf fileName node) (build.site.tree.directoryOf other) := by
  have numbered := numbered_of_load loaded
  have hdirectory := node?_directoryOf numbered hnode
  have hdirectory' := node?_directoryOf numbered hother
  rw [target_fileOf loaded hnode (h.imp_left And.left),
    target_fileOf loaded hother (h.imp_left And.right), List.prefix_append_right_inj,
    List.prefix_concat_iff, leads_iff loaded hdirectory hdirectory']
  refine or_congr_left ⟨fun heq => ?_, fun ⟨hsame, hleaf⟩ => by rw [hsame, hleaf]⟩
  obtain ⟨hslugs, hleaf⟩ := List.append_inj' heq rfl
  exact ⟨eq_of_slugsOf_eq loaded hdirectory hdirectory' hslugs, List.singleton_inj.1 hleaf⟩

/-! ## Files apart -/

/-- The names keep the written files apart. -/
structure Separates (tree : ContentTree) (format : ContentFormat) (fileName : String) : Prop where
  /-- No page is written below an entry that has the name of a file beside it. -/
  shadows : ∀ node other, tree.IsWriter node → tree.IsWriter other →
    ¬ tree.Leads format (tree.directoryOf node) (tree.leafOf fileName node) (tree.directoryOf other)
  /-- An aggregate page that is written to a file of its own has another name for the file of the
      pages below it. -/
  shares : ∀ node other, tree.IsWriter node → tree.IsWriter other → tree.gatherer? node = none →
    tree.gatherer? other = some node → fileName ≠ "index.html"

/-- Written pages that share a directory and a name are one page, if no page is written beside the
    file of the pages below it under the same name. -/
theorem eq_of_directoryOf_eq
    (shares : ∀ node other, tree.IsWriter node → tree.IsWriter other →
      tree.gatherer? node = none → tree.gatherer? other = some node → fileName ≠ "index.html")
    (hnode : tree.IsWriter node) (hother : tree.IsWriter other)
    (hdirectory : tree.directoryOf node = tree.directoryOf other)
    (hleaf : tree.leafOf fileName node = tree.leafOf fileName other) : node = other := by
  unfold directoryOf at hdirectory
  unfold leafOf at hleaf
  cases hg : tree.gatherer? node with
  | none =>
    cases hg' : tree.gatherer? other with
    | none => simpa only [hg, hg', Option.getD_none] using hdirectory
    | some parent =>
      rw [hg, hg'] at hdirectory hleaf
      obtain rfl : node = parent := hdirectory
      exact absurd hleaf.symm (shares node other hnode hother hg hg')
  | some parent =>
    cases hg' : tree.gatherer? other with
    | none =>
      rw [hg, hg'] at hdirectory hleaf
      obtain rfl : parent = other := hdirectory
      exact absurd hleaf (shares parent node hother hnode hg' hg)
    | some parent' =>
      rw [hg, hg'] at hdirectory
      obtain rfl : parent = parent' := hdirectory
      exact Option.some.inj ((hnode.last parent hg).symm.trans (hother.last parent hg'))

/-- **Files apart.**  If the files of aggregated pages have a plain name, no two written files get
    into each other's way just if the names keep them apart. -/
theorem apart_iff (loaded : load reader fs format root = .ok build.site.tree)
    (hname : Path.IsComponent fileName) (files : FileSystem) :
    (∀ node other, build.site.tree.IsWriter node → build.site.tree.IsWriter other → node ≠ other →
      ¬ files.target (build.fileOf fileName node) <+: files.target (build.fileOf fileName other)) ↔
    build.site.tree.Separates format fileName := by
  have hiff {node other : Node} (hnode : build.site.tree.IsWriter node)
      (hother : build.site.tree.IsWriter other) :=
    prefix_fileOf_iff fileName loaded hnode.known hother.known (.inr hname) files
  constructor
  · intro apart
    refine ⟨fun node other hnode hother hleads => ?_, fun node other hnode hother hg hg' hindex => ?_⟩
    · refine apart node other hnode hother ?_ ((hiff hnode hother).2 (.inr hleads))
      rintro rfl
      exact not_leads_self loaded (node?_directoryOf (numbered_of_load loaded) hnode.known) hleads
    · refine apart node other hnode hother ?_ ((hiff hnode hother).2 (.inl ?_))
      · rintro rfl
        rw [hg] at hg'; cases hg'
      · rw [directoryOf, directoryOf, leafOf, leafOf, hg, hg', hindex]
        exact ⟨rfl, rfl⟩
  · intro separates node other hnode hother hne hprefix
    rcases (hiff hnode hother).1 hprefix with ⟨hdirectory, hleaf⟩ | hleads
    · exact hne (eq_of_directoryOf_eq separates.shares hnode hother hdirectory hleaf)
    · exact separates.shadows node other hnode hother hleads

end ContentTree

/-! ## Sessions -/

namespace Session
variable {around : Settings.Surroundings} {file : Option Path}
  {overrides : Option Settings.Overrides} {cacheNumber : Nat} {session : Session}

/-- **Where written files get into each other's way.**  Take a session of any settings that are
    accepted, and a build of its tree into any directory.

    * The files of two pages that are written to files of their own are different, and one stands
      on the way to the other just if an entry `index.html` of the first page leads to the second.
    * If the files of aggregated pages have a plain name, no two written files get into each
      other's way just if the names keep them apart.  Then, in every history of such a build
      through the standard pipeline, whatever two pages are about to be written, at one time or
      another, their files do not get into each other's way. -/
theorem separation (loaded : load around file overrides cacheNumber = .ok session) {build : Build}
    (hbuild : build.site.tree = session.tree) (files : FileSystem) :
    (∀ node other, session.tree.IsWriter node → session.tree.IsWriter other → node ≠ other →
      session.tree.gatherer? node = none → session.tree.gatherer? other = none →
      files.target (build.fileOf session.settings.aggregateFile node) ≠
          files.target (build.fileOf session.settings.aggregateFile other) ∧
        (files.target (build.fileOf session.settings.aggregateFile node) <+:
            files.target (build.fileOf session.settings.aggregateFile other) ↔
          session.tree.Leads session.settings.format node "index.html" other)) ∧
    (Path.IsComponent session.settings.aggregateFile →
      ((∀ node other, session.tree.IsWriter node → session.tree.IsWriter other → node ≠ other →
        ¬ files.target (build.fileOf session.settings.aggregateFile node) <+:
          files.target (build.fileOf session.settings.aggregateFile other)) ↔
        session.tree.Separates session.settings.format session.settings.aggregateFile) ∧
      (session.tree.Separates session.settings.format session.settings.aggregateFile →
        ∀ (renderer : Renderer) (separator : String),
          build.Standard renderer session.settings.aggregateFile separator →
          ∀ (workspace : Workspace) (cancelled : Bool) (past : List BuildState)
            (state : BuildState),
            build.History (build.start workspace cancelled) (state :: past) →
            ∀ s ∈ state :: past, ∀ s' ∈ state :: past, ∀ job job' : Job,
              .working job (build.movesFrom .writing) ∈ s.workers →
              .working job' (build.movesFrom .writing) ∈ s'.workers → job.node ≠ job'.node →
              ¬ files.target (job.outputFile build.site) <+:
                files.target (job'.outputFile build.site))) := by
  have htree := tree_eq loaded
  rw [← hbuild] at htree ⊢
  refine ⟨fun node other hnode hother hne hg hg' => ?_, fun hname =>
    ⟨ContentTree.apart_iff htree hname files, fun separates renderer separator standard workspace
      cancelled past state history s hs s' hs' job job' hjob hjob' hne => ?_⟩⟩
  · have hiff := ContentTree.prefix_fileOf_iff session.settings.aggregateFile htree hnode.known
      hother.known (.inl ⟨hg, hg'⟩) files
    rw [ContentTree.directoryOf_of_gatherer?_eq_none hg,
      ContentTree.directoryOf_of_gatherer?_eq_none hg',
      ContentTree.leafOf_of_gatherer?_eq_none hg] at hiff
    refine ⟨fun heq => ?_, hiff.trans (or_iff_right fun hsame => hne hsame.1)⟩
    rw [ContentTree.target_fileOf htree hnode.known (.inl hg),
      ContentTree.target_fileOf htree hother.known (.inl hg'), List.append_cancel_left_eq,
      ContentTree.directoryOf_of_gatherer?_eq_none hg,
      ContentTree.directoryOf_of_gatherer?_eq_none hg'] at heq
    exact hne (ContentTree.eq_of_slugsOf_eq htree hnode.known hother.known
      (List.append_inj' heq rfl).1)
  · have written {s : BuildState} (hs : s ∈ state :: past) {job : Job}
        (hjob : .working job (build.movesFrom .writing) ∈ s.workers) :
        build.site.tree.IsWriter job.node ∧
          job.outputFile build.site = build.fileOf session.settings.aggregateFile job.node := by
      obtain ⟨_, hbefore, -⟩ := history.exists_past hs
      obtain ⟨worker, ha⟩ := List.mem_iff_getElem?.1 hjob
      exact Build.outputFile_of_writing (Build.regular_of_load htree standard) hbefore (by decide) ha
    obtain ⟨hwriter, hfile⟩ := written hs hjob
    obtain ⟨hwriter', hfile'⟩ := written hs' hjob'
    rw [hfile, hfile']
    exact (ContentTree.apart_iff htree hname files).2 separates _ _ hwriter hwriter' hne

end Session

/-! ## A name that keeps pages apart, and names that do not -/

open Escape in
/-- With a plain name no two written files get into each other's way. -/
theorem separation_all :
    (session "all.html").tree.Separates (session "all.html").settings.format "all.html" ∧
      ∀ node other, (session "all.html").tree.IsWriter node →
        (session "all.html").tree.IsWriter other → node ≠ other →
        ¬ (around "all.html").files.target ((build "all.html").fileOf "all.html" node) <+:
          (around "all.html").files.target ((build "all.html").fileOf "all.html" other) := by
  have hname : (session "all.html").settings.aggregateFile = "all.html" := by decide +kernel
  obtain ⟨-, hapart⟩ := Session.separation (loaded "all.html" (by decide +kernel))
    (tree_eq "all.html") (around "all.html").files
  rw [hname] at hapart
  obtain ⟨hiff, -⟩ := hapart (by decide)
  have hall : ((session "all.html").tree.nodes.all fun node =>
      (session "all.html").tree.nodes.all fun other =>
        !decide ((session "all.html").tree.Leads (session "all.html").settings.format
          ((session "all.html").tree.directoryOf node)
          ((session "all.html").tree.leafOf "all.html" node)
          ((session "all.html").tree.directoryOf other))) = true := by decide +kernel
  have separates : (session "all.html").tree.Separates (session "all.html").settings.format
      "all.html" := by
    refine ⟨fun node other hnode hother => ?_, fun _ _ _ _ _ _ => by decide⟩
    have hnot := List.all_eq_true.1 (List.all_eq_true.1 hall node (List.mem_of_getElem? hnode.known))
      other (List.mem_of_getElem? hother.known)
    simpa using hnot
  exact ⟨separates, hiff.2 separates⟩

namespace Clash

/-- A page with a page below it whose entry has the name of the file of the first one. -/
def around : Settings.Surroundings where
  files :=
    { entries :=
        [(["cw.toml"], .file "[build]\nrenderer = \"plain\"\n".toUTF8),
          (["content"], .directory),
          (["content", "manifest.yaml"], .file "[default, index.html]".toUTF8),
          (["content", "default.md"], .file "Home".toUTF8),
          (["content", "index.html.md"], .file "One".toUTF8)]
      current := [] }
  environment := []
  processors := 1
  languages := .common

end Clash

open Escape in
/-- The settings are accepted with the name of the page files, the two pages of the course are
    written to one file, and only the text of the second one is left.  And a course with an entry
    of that name is accepted, but cannot be built, although no setting speaks of the name. -/
theorem pages_in_each_others_way :
    (Session.load (around "index.html") none none 0 = .ok (session "index.html") ∧
      ((session "index.html").tree.nodes.map fun node =>
        (around "index.html").files.target ((build "index.html").fileOf "index.html" node)) =
          [["site", "pages", "index.html"], ["site", "pages", "index.html"]] ∧
      (Command.run (around "index.html") ["build", "-j", "1"]).notices.getLast?.map
        Command.Notice.text = some "Built 2 pages" ∧
      ((Command.run (around "index.html") ["build", "-j", "1"]).files.readText
        ⟨"/site/pages/index.html"⟩).toOption = some "One") ∧
    (Command.run Clash.around ["build", "-j", "1"]).notices.getLast?.map Command.Notice.text =
      some ("Error: failed to build /index.html: I/O error at /site/index.html: " ++
        "File exists (os error 17)") :=
  ⟨⟨loaded _ (by decide +kernel), by decide +kernel, by decide +kernel, by decide +kernel⟩,
    by decide +kernel⟩

end CourseSite
