/-
  What a build is expected to write, before any of its steps.

  * `ContentTree.IsWriter`, `Build.fileOf`: which pages are written, and where.
  * `Plan`: the texts that are expected of the pages; `Plan.job`: a page as it is
    rendered according to that.
  * `Build.Determined`: documents, extensions and renderer give what the plan expects
    as long as only the files of the build are written, and no two pages share a file.
  * `job_eq_of_carries`: hence what a page carries is what the plan expects, whatever
    the order of the steps.
-/
import CourseSite.Proofs.Files.Writing
import CourseSite.Proofs.Site.Fragments

namespace CourseSite

/-- The page is written: it has a document, and it is the last one if the documents
    below its parent go into one file. -/
structure ContentTree.IsWriter (tree : ContentTree) (node : Node) : Prop where
  known : tree.node? node.id = some node
  document : node.page.isVirtual = false
  last : ∀ parent, tree.gatherer? node = some parent →
    (tree.documents parent).getLast? = some node

/-- The file that a page is written to: its own, or the one of the documents below its
    parent. -/
def Build.fileOf (build : Build) (fileName : String) (node : Node) : Path :=
  build.site.outputRoot.join
    (match build.site.tree.gatherer? node with
    | none => node.page.output
    | some parent => (parent.page.output.parent?.getD ⟨""⟩).join ⟨fileName⟩)

/-- The locations that a build writes to. -/
def Build.Outputs (build : Build) (fileName : String) (files : FileSystem) (location : Location) :
    Prop :=
  ∃ node, build.site.tree.IsWriter node ∧ location = files.target (build.fileOf fileName node)

/-- What is expected of the pages, and of what is kept in the cache. -/
structure Plan where
  body : Node → String
  expansion : Node → String
  output : Job → String
  sound : CacheStore → Prop

/-- A page as it is expected to be rendered: with its own text, or with the texts of all
    documents below its parent. -/
def Plan.job (plan : Plan) (build : Build) (fileName separator : String) (node : Node) : Job :=
  match build.site.tree.gatherer? node with
  | none => .whole build.site node (plan.expansion node)
  | some parent => .combined build.site fileName parent node
      (separator.intercalate ((build.site.tree.documents parent).map plan.expansion))

/-- Documents, extensions and renderer keep to a plan: they depend on nothing that the
    build changes. -/
structure Build.Determined (build : Build) (renderer : Renderer) (fileName separator : String)
    (workspace : Workspace) (plan : Plan) : Prop where
  /-- Every document can be read. -/
  reads : ∀ {node}, build.site.tree.node? node.id = some node → node.page.isVirtual = false →
    ContentTree.readBody workspace.files node.page = .ok (plan.body node)
  /-- No document is written over. -/
  apart : ∀ {node path}, build.site.tree.node? node.id = some node → node.page.source = some path →
    ¬ build.Outputs fileName workspace.files (workspace.files.target path)
  /-- The reply of an extension does not depend on what the build writes. -/
  expands : ∀ {node files}, build.site.tree.node? node.id = some node →
    node.page.isVirtual = false →
    workspace.files.ExtendedBy (build.Outputs fileName workspace.files) files →
    build.site.registry.expand files (Stage.pageInfo build.site node) (plan.body node) =
      .ok (plan.expansion node)
  /-- What is kept in the cache is right at first. -/
  cached : plan.sound workspace.cache
  /-- A page is rendered in one way, as long as what is kept in the cache is right. -/
  renders : ∀ {node cache text cache'}, build.site.tree.IsWriter node → plan.sound cache →
    renderer.render build.site (plan.job build fileName separator node) cache = .ok (text, cache') →
    text = plan.output (plan.job build fileName separator node) ∧ plan.sound cache'
  /-- No two pages are written to one file. -/
  distinct : ∀ {node node'}, build.site.tree.IsWriter node → build.site.tree.IsWriter node' →
    workspace.files.target (build.fileOf fileName node) =
      workspace.files.target (build.fileOf fileName node') → node = node'

namespace Build
variable {build : Build} {renderer : Renderer} {fileName separator : String} {plan : Plan}
  {workspace : Workspace} {states : List BuildState} {node : Node} {job : Job} {text : String}

/-! ## Pages that come to be rendered -/

/-- A page that comes to be rendered is written, and to its file. -/
theorem Composed.isWriter (h : build.Composed fileName separator states job)
    (hnode : build.site.tree.node? job.node.id = some job.node) :
    build.site.tree.IsWriter job.node ∧ job.outputFile build.site = build.fileOf fileName job.node := by
  cases h with
  | @own node text hg he =>
    refine ⟨⟨hnode, he.document, fun parent hp => absurd (hg.symm.trans hp) nofun⟩, ?_⟩
    show build.site.outputRoot.join node.page.output = build.fileOf fileName node
    rw [fileOf, hg]
  | @combined node parent texts hg hl he =>
    have hv : node.page.isVirtual = false := by
      simpa using (List.mem_filter.1 (List.mem_of_getLast? hl)).2
    refine ⟨⟨hnode, hv, fun parent' hp => ?_⟩, ?_⟩
    · cases hg.symm.trans hp; exact hl
    · show build.site.outputRoot.join _ = build.fileOf fileName node
      rw [fileOf, hg]; rfl

/-! ## Files -/

theorem files_of_turn {state shared : BuildState} {activity activity' : Activity}
    (turn : Turn build renderer fileName separator state activity activity' shared) :
    state.workspace.files.ExtendedBy (fun _ => False) shared.workspace.files ∨
      ∃ job, activity = .working job (build.movesFrom .writing) ∧
        state.workspace.files.write (job.outputFile build.site) job.text.toUTF8 =
          .ok shared.workspace.files := by
  have refl := FileSystem.ExtendedBy.refl state.workspace.files (fun _ => False)
  have made {directory : Path} {files : FileSystem} {error? : Option FileError}
      (h : state.workspace.files.createDirectories directory = (files, error?)) :
      state.workspace.files.ExtendedBy (fun _ => False) files := by
    have := FileSystem.extendedBy_createDirectories state.workspace.files directory
    rwa [h] at this
  cases turn with
  | arrive | fall =>
    refine Or.inl ?_
    show FileSystem.ExtendedBy _ _ (state.workspace.changeBarrier _ _).files
    unfold Workspace.changeBarrier
    split <;> exact refl
  | work hs =>
    cases hs with
    | prepare _ hc | unprepared _ hc => exact Or.inl (made hc)
    | write hw => exact Or.inr ⟨_, rfl, hw⟩
    | contribute | lead =>
      refine Or.inl ?_
      show FileSystem.ExtendedBy _ _ (state.workspace.changeBarrier _ _).files
      unfold Workspace.changeBarrier
      split <;> exact refl
    | _ => exact Or.inl refl
  | _ => exact Or.inl refl

/-- What a page has with it when it is about to be rendered. -/
theorem composed_of_rendering {past : List BuildState} {state : BuildState}
    (known : build.Gathers renderer fileName separator past state)
    (hm : .working job (build.movesFrom .rendering) ∈ state.workers) :
    build.Composed fileName separator (state :: past) job := by
  cases known.carries hm with
  | rendering hc => exact hc
  | waiting hp => rcases hp with hp | hp <;> cases hp
  | rendered hp => exact absurd hp (by decide)

/-- What a page has with it when it is about to write. -/
theorem composed_of_writing {past : List BuildState} {state : BuildState}
    (known : build.Gathers renderer fileName separator past state) {point : Waypoint}
    (hle : 7 ≤ point.index) (hm : .working job (build.movesFrom point) ∈ state.workers) :
    ∃ before text, build.Composed fileName separator (state :: past) before ∧
      build.Rendered renderer (state :: past) before text ∧ job = { before with text := text } := by
  cases known.carries hm with
  | rendered _ hc hr => exact ⟨_, _, hc, hr, rfl⟩
  | waiting hp => rcases hp with rfl | rfl <;> exact absurd hle (by decide)
  | _ => exact absurd hle (by decide)

/-- A page that is about to write writes to its file. -/
theorem outputFile_of_writing (regular : build.Regular renderer fileName separator)
    {cancelled : Bool} {past : List BuildState} {state : BuildState} {worker : Nat}
    {point : Waypoint} (h : build.History (build.start workspace cancelled) (state :: past))
    (hle : 7 ≤ point.index)
    (ha : state.workers[worker]? = some (.working job (build.movesFrom point))) :
    build.site.tree.IsWriter job.node ∧ job.outputFile build.site = build.fileOf fileName job.node := by
  obtain ⟨before, text, hc, -, rfl⟩ :=
    composed_of_writing (gathers_of_history regular h) hle (List.mem_of_getElem? ha)
  exact hc.isWriter ((dispatched_of_history regular h).held ha rfl).1

/-- **Files.** A build changes only the files of its pages, and only adds directories. -/
theorem extendedBy_of_history (regular : build.Regular renderer fileName separator)
    {cancelled : Bool} {past : List BuildState} {state : BuildState}
    (h : build.History (build.start workspace cancelled) (state :: past)) :
    workspace.files.ExtendedBy (build.Outputs fileName workspace.files) state.workspace.files := by
  refine History.turns (P := fun _ state => workspace.files.ExtendedBy
    (build.Outputs fileName workspace.files) state.workspace.files) regular
    (FileSystem.ExtendedBy.refl ..) ?_ (fun _ hext _ => hext) h
  intro past state worker activity activity' shared history hext ha turn
  show workspace.files.ExtendedBy _ shared.workspace.files
  rcases files_of_turn turn with hsame | ⟨job, rfl, hw⟩
  · exact hext.trans (hsame.mono nofun)
  · obtain ⟨hwriter, hfile⟩ := outputFile_of_writing regular history (by decide) ha
    refine hext.trans ((FileSystem.extendedBy_write hw).mono ?_)
    rintro location rfl
    exact ⟨job.node, hwriter, by rw [hext.target_eq, hfile]⟩

/-! ## Texts -/

/-- A document that could be read is read as before, if it was not written over. -/
theorem readBody_of_extendedBy {outputs : Location → Prop} {files later : FileSystem} {page : Page}
    (hext : files.ExtendedBy outputs later)
    (hapart : ∀ path, page.source = some path → ¬ outputs (files.target path))
    (hread : ContentTree.readBody files page = .ok text) :
    ContentTree.readBody later page = .ok text := by
  unfold ContentTree.readBody at hread ⊢
  cases hs : page.source with
  | none => rw [hs] at hread; exact hread
  | some path =>
    simp only [hs] at hread ⊢
    have htext : ∀ t, files.readText path = .ok t → later.readText path = .ok t := by
      intro t ht
      unfold FileSystem.readText at ht ⊢
      cases hr : files.read path with
      | error e => rw [hr] at ht; cases ht
      | ok data => rw [hext.read (hapart path hs) hr]; rw [hr] at ht; exact ht
    cases hr : files.readText path with
    | error e => rw [hr] at hread; cases hread
    | ok t => rw [htext t hr]; rw [hr] at hread; exact hread

section
variable (determined : build.Determined renderer fileName separator workspace plan)
  (extended : ∀ state ∈ states, workspace.files.ExtendedBy
    (build.Outputs fileName workspace.files) state.workspace.files)
include determined extended

/-- A page expands to the text that is expected. -/
theorem Expanded.eq_expansion (hnode : build.site.tree.node? node.id = some node)
    (h : build.Expanded states node text) : text = plan.expansion node := by
  obtain ⟨hv, ⟨body, ⟨s, hs, hread⟩, s', hs', hexpand⟩, -⟩ := h
  have hread' := readBody_of_extendedBy (extended s hs) (fun _ hp => determined.apart hnode hp)
    (determined.reads hnode hv)
  rw [hread'] at hread
  cases hread
  rw [determined.expands hnode hv (extended s' hs')] at hexpand
  cases hexpand; rfl

/-- A page comes to be rendered as it is expected. -/
theorem Composed.eq_job (numbered : build.site.tree.Numbered)
    (hnode : build.site.tree.node? job.node.id = some job.node)
    (h : build.Composed fileName separator states job) :
    job = plan.job build fileName separator job.node := by
  cases h with
  | @own node text hg he =>
    rw [Expanded.eq_expansion determined extended hnode he]
    show _ = plan.job build fileName separator node
    rw [Plan.job, hg]; rfl
  | @combined node parent texts hg hl he =>
    obtain ⟨-, hparent⟩ :=
      numbered.parent?_eq_some_iff.1 (ContentTree.gatherer?_eq_some_iff.1 hg).1
    have htexts : texts = (build.site.tree.documents parent).map plan.expansion := by
      have heq : List.Forall₂ (fun doc text => plan.expansion doc = text)
          (build.site.tree.documents parent) texts := by
        refine List.forall₂_iff_zip.2 ⟨he.length_eq, fun {doc text} hz => ?_⟩
        have hd := (List.of_mem_zip hz).1
        exact (Expanded.eq_expansion determined extended
          ((numbered.mem_documents_iff hparent).1 hd).1 ((List.forall₂_iff_zip.1 he).2 hz)).symm
      rw [← List.forall₂_map_left_iff, List.forall₂_eq_eq_eq] at heq
      exact heq.symm
    rw [htexts]
    show _ = plan.job build fileName separator node
    rw [Plan.job, hg]

end

/-! ## What a page carries -/

theorem cache_of_turn {state shared : BuildState} {activity activity' : Activity}
    (turn : Turn build renderer fileName separator state activity activity' shared) :
    shared.workspace.cache = state.workspace.cache ∨
      ∃ job text cache, activity = .working job (build.movesFrom .rendering) ∧
        renderer.render build.site job state.workspace.cache = .ok (text, cache) ∧
        shared.workspace.cache = cache := by
  have changed (workspace : Workspace) (node : Node) (change : Barrier → Barrier) :
      (workspace.changeBarrier node change).cache = workspace.cache := by
    unfold Workspace.changeBarrier; split <;> rfl
  cases turn with
  | arrive | fall => exact Or.inl (changed ..)
  | work hs =>
    cases hs with
    | render hr => exact Or.inr ⟨_, _, _, rfl, hr, rfl⟩
    | contribute | lead => exact Or.inl (changed ..)
    | _ => exact Or.inl rfl
  | _ => exact Or.inl rfl

section
variable (regular : build.Regular renderer fileName separator)
  (determined : build.Determined renderer fileName separator workspace plan)
  {cancelled : Bool} {past : List BuildState} {state : BuildState}
include regular determined

/-- A page that is about to be rendered is as it is expected. -/
theorem eq_job_of_rendering (h : build.History (build.start workspace cancelled) (state :: past))
    (hc : build.Composed fileName separator (state :: past) job)
    (hnode : build.site.tree.node? job.node.id = some job.node) :
    build.site.tree.IsWriter job.node ∧ job = plan.job build fileName separator job.node := by
  refine ⟨(hc.isWriter hnode).1, hc.eq_job determined (fun s hs => ?_) regular.numbered hnode⟩
  obtain ⟨_, hpast, -⟩ := h.exists_past hs
  exact extendedBy_of_history regular hpast

/-- What is kept in the cache is always right. -/
theorem sound_of_history
    (h : build.History (build.start workspace cancelled) (state :: past)) :
    plan.sound state.workspace.cache := by
  refine History.turns (P := fun _ state => plan.sound state.workspace.cache) regular
    determined.cached ?_ (fun _ hsound _ => hsound) h
  intro past state worker activity activity' shared history hsound ha turn
  show plan.sound shared.workspace.cache
  rcases cache_of_turn turn with hsame | ⟨job, text, cache, rfl, hr, rfl⟩
  · rw [hsame]; exact hsound
  · have hnode := ((dispatched_of_history regular history).held ha rfl).1
    have hc := composed_of_rendering (gathers_of_history regular history) (List.mem_of_getElem? ha)
    obtain ⟨hwriter, hjob⟩ := eq_job_of_rendering regular determined history hc hnode
    rw [hjob] at hr
    exact (determined.renders hwriter hsound hr).2

/-- **What is written is as it is expected**, whatever the order of the steps. -/
theorem job_eq_of_carries (h : build.History (build.start workspace cancelled) (state :: past))
    {worker : Nat} {point : Waypoint} (hle : 7 ≤ point.index)
    (ha : state.workers[worker]? = some (.working job (build.movesFrom point))) :
    build.site.tree.IsWriter job.node ∧
      job = { plan.job build fileName separator job.node with
        text := plan.output (plan.job build fileName separator job.node) } := by
  have hnode := ((dispatched_of_history regular h).held ha rfl).1
  obtain ⟨before, text, hc, ⟨s, hs, cache, hr⟩, rfl⟩ :=
    composed_of_writing (gathers_of_history regular h) hle (List.mem_of_getElem? ha)
  obtain ⟨hwriter, hjob⟩ := eq_job_of_rendering regular determined h hc hnode
  obtain ⟨_, hpast, -⟩ := h.exists_past hs
  rw [hjob] at hr
  have htext := (determined.renders hwriter (sound_of_history regular determined hpast) hr).1
  refine ⟨hwriter, ?_⟩
  show { before with text := text } = { plan.job build fileName separator before.node with
    text := plan.output (plan.job build fileName separator before.node) }
  rw [← hjob] at htext ⊢
  rw [htext]

end

end Build

end CourseSite
