/-
  What a page carries on its way through the standard pipeline.

  * `Job.whole`, `Job.combined`: a page with its own text, and a page with the texts of
    all documents below its parent.
  * `Build.Expanded`, `Build.Composed`, `Build.Rendered`: where these texts and what is
    made of them come from in a history.
  * `Build.Carries`: what a page carries at each point.
  * `Stride.carries`: every move keeps to that.
-/
import CourseSite.Proofs.Site.Documents
import CourseSite.Proofs.Site.Turn

namespace CourseSite

namespace Job

/-- A page with a text of its own. -/
def whole (site : Site) (node : Node) (text : String) : Job :=
  .start site node node.parent.isSome text

/-- A page on its way to the file of its parent, with the text of that file. -/
def combined (site : Site) (fileName : String) (parent node : Node) (text : String) : Job :=
  { whole site node text with
    outputPath := (parent.page.output.parent?.getD ⟨""⟩).join ⟨fileName⟩
    tokens := Dictionary.insert "url" (.string parent.page.url)
      (Dictionary.insert "title" (.string parent.page.title) (Tokens.ofNode site.tree node)) }

theorem gatherer?_whole (site : Site) (node : Node) (text : String) :
    Stage.gatherer? site (whole site node text) = site.tree.gatherer? node := by
  have hmeets : (whole site node text).meets = node.parent.isSome := rfl
  by_cases hp : node.parent.isSome = true
  · rw [Stage.gatherer?, if_pos (hmeets.trans hp)]; rfl
  · rw [Stage.gatherer?, if_neg (by rwa [hmeets]), ContentTree.gatherer?, ContentTree.parent?,
      Option.not_isSome_iff_eq_none.1 hp]; rfl

theorem gathered_whole (site : Site) (fileName separator : String) (parent node : Node)
    (text : String) (barrier : Barrier) :
    (whole site node text).gathered fileName separator parent (some barrier) =
      combined site fileName parent node (barrier.joinFragments separator).1 := rfl

end Job

/-! ## Where the texts come from -/

namespace Build

/-- The page was read as the text. -/
def ReadAs (states : List BuildState) (node : Node) (text : String) : Prop :=
  ∃ state ∈ states, ContentTree.readBody state.workspace.files node.page = .ok text

/-- The page has a document, which was read and expanded to the text, and it came to the
    stage of the aggregation with that. -/
structure Expanded (build : Build) (states : List BuildState) (node : Node) (text : String) :
    Prop where
  document : node.page.isVirtual = false
  expands : ∃ body, ReadAs states node body ∧ ∃ state ∈ states,
    build.site.registry.expand state.workspace.files (Stage.pageInfo build.site node) body = .ok text
  came : ∃ state ∈ states,
    .working (Job.whole build.site node text) (build.movesFrom .contributing) ∈ state.workers

/-- The page is ready to be rendered: with its own text, or, as the last document below an
    aggregate page, with the texts of all documents there. -/
inductive Composed (build : Build) (fileName separator : String) (states : List BuildState) :
    Job → Prop
  | own {node text} : build.site.tree.gatherer? node = none → build.Expanded states node text →
      Composed build fileName separator states (.whole build.site node text)
  | combined {node parent texts} : build.site.tree.gatherer? node = some parent →
      (build.site.tree.documents parent).getLast? = some node →
      List.Forall₂ (build.Expanded states) (build.site.tree.documents parent) texts →
      Composed build fileName separator states
        (.combined build.site fileName parent node (separator.intercalate texts))

/-- The page was rendered as the text. -/
def Rendered (build : Build) (renderer : Renderer) (states : List BuildState) (job : Job)
    (text : String) : Prop :=
  ∃ state ∈ states, ∃ cache,
    renderer.render build.site job state.workspace.cache = .ok (text, cache)

/-- What a page carries at each point of its way. -/
inductive Carries (build : Build) (renderer : Renderer) (fileName separator : String)
    (states : List BuildState) : Waypoint → Job → Prop
  | reading {node} : Carries build renderer fileName separator states .reading
      (.whole build.site node "")
  | skipping {node text} : ReadAs states node text →
      Carries build renderer fileName separator states .skipping (.whole build.site node text)
  | expanding {node text} : node.page.isVirtual = false → ReadAs states node text →
      Carries build renderer fileName separator states .expanding (.whole build.site node text)
  | contributing {node text} : build.Expanded states node text →
      Carries build renderer fileName separator states .contributing
        (.whole build.site node text)
  | waiting {point node text} : point = .awaiting ∨ point = .gathering →
      build.Expanded states node text →
      (∀ parent, build.site.tree.gatherer? node = some parent →
        (build.site.tree.documents parent).getLast? = some node) →
      Carries build renderer fileName separator states point (.whole build.site node text)
  | rendering {job} : build.Composed fileName separator states job →
      Carries build renderer fileName separator states .rendering job
  | rendered {point job text} : 7 ≤ point.index → build.Composed fileName separator states job →
      build.Rendered renderer states job text →
      Carries build renderer fileName separator states point { job with text := text }

section
variable {build : Build} {renderer : Renderer} {fileName separator : String}
  {states states' : List BuildState} {node : Node} {job : Job} {text : String}

theorem ReadAs.mono (h : ReadAs states node text) (sub : states ⊆ states') :
    ReadAs states' node text := by
  obtain ⟨s, hs, h⟩ := h; exact ⟨s, sub hs, h⟩

theorem Expanded.mono (h : build.Expanded states node text) (sub : states ⊆ states') :
    build.Expanded states' node text := by
  obtain ⟨hv, ⟨body, hread, s, hs, hexpand⟩, s', hs', hm⟩ := h
  exact ⟨hv, ⟨body, hread.mono sub, s, sub hs, hexpand⟩, s', sub hs', hm⟩

theorem Composed.mono (h : build.Composed fileName separator states job) (sub : states ⊆ states') :
    build.Composed fileName separator states' job := by
  cases h with
  | own hg he => exact .own hg (he.mono sub)
  | combined hg hl he => exact .combined hg hl (he.imp fun _ _ h => h.mono sub)

theorem Rendered.mono (h : build.Rendered renderer states job text) (sub : states ⊆ states') :
    build.Rendered renderer states' job text := by
  obtain ⟨s, hs, h⟩ := h; exact ⟨s, sub hs, h⟩

theorem Carries.mono {point : Waypoint}
    (h : build.Carries renderer fileName separator states point job) (sub : states ⊆ states') :
    build.Carries renderer fileName separator states' point job := by
  cases h with
  | reading => exact .reading
  | skipping hr => exact .skipping (hr.mono sub)
  | expanding hv hr => exact .expanding hv (hr.mono sub)
  | contributing he => exact .contributing (he.mono sub)
  | waiting hp he hl => exact .waiting hp (he.mono sub) hl
  | rendering hc => exact .rendering (hc.mono sub)
  | rendered hp hc hr => exact .rendered hp (hc.mono sub) (hr.mono sub)

/-- Until the texts are gathered, a page is gathered if its parent is an aggregate page. -/
theorem Carries.gatherer?_eq {point : Waypoint}
    (h : build.Carries renderer fileName separator states point job) (hle : point.index ≤ 5) :
    Stage.gatherer? build.site job = build.site.tree.gatherer? job.node := by
  cases h with
  | rendering => exact absurd hle (by decide)
  | rendered hp => omega
  | _ => exact Job.gatherer?_whole ..

/-! ## Strides -/

/-- The page that goes on is the last document. -/
theorem getLast?_documents (numbered : build.site.tree.Numbered) {parent : Node}
    (hnode : build.site.tree.node? node.id = some node)
    (hg : build.site.tree.gatherer? node = some parent)
    (hl : Stage.lastDocument? build.site.tree parent = some node.position) :
    (build.site.tree.documents parent).getLast? = some node := by
  obtain ⟨hp, hparent⟩ :=
    numbered.parent?_eq_some_iff.1 (ContentTree.gatherer?_eq_some_iff.1 hg).1
  rw [numbered.lastDocument?_eq hparent] at hl
  obtain ⟨last, hlast, hpos⟩ := Option.map_eq_some_iff.1 hl
  obtain ⟨hn, hlp, -⟩ := (numbered.mem_documents_iff hparent).1 (List.mem_of_getLast? hlast)
  rwa [numbered.eq_of_place hn hnode hlp hp hpos] at hlast

end

end Build

/-- **Every move keeps to what a page carries**, if the texts that it gathers are those of
    all documents. -/
theorem Stride.carries {build : Build} {renderer : Renderer} {fileName separator : String}
    (numbered : build.site.tree.Numbered) {point : Waypoint} {job job' : Job} {moves : List NamedMove} {state next : BuildState}
    {past : List BuildState} {ws : Workspace}
    (hnode : build.site.tree.node? job.node.id = some job.node)
    (hc : build.Carries renderer fileName separator (state :: past) point job)
    (hgather : ∀ parent, point = .gathering → build.site.tree.gatherer? job.node = some parent →
      build.Composed fileName separator (state :: past)
        (job.gathered fileName separator parent (state.workspace.barrier? job)))
    (h : Stride build renderer fileName separator point job state.workspace
      (.working job' moves) ws)
    (hself : .working job' moves ∈ next.workers) :
    ∃ point', moves = build.movesFrom point' ∧
      build.Carries renderer fileName separator (next :: state :: past) point' job' := by
  have sub : state :: past ⊆ next :: state :: past := List.subset_cons_self ..
  have here : state ∈ next :: state :: past := List.mem_cons_of_mem _ List.mem_cons_self
  cases hc with
  | reading =>
    cases h with
    | read hr => exact ⟨_, rfl, .skipping ⟨state, here, hr⟩⟩
  | skipping hr =>
    cases h with
    | keep hv => exact ⟨_, rfl, .expanding hv (hr.mono sub)⟩
  | expanding hv hr =>
    cases h with
    | expand he =>
      exact ⟨_, rfl, .contributing
        ⟨hv, ⟨_, hr.mono sub, state, here, he⟩, next, List.mem_cons_self, hself⟩⟩
  | contributing he =>
    cases h with
    | alone hg =>
      rw [Job.gatherer?_whole] at hg
      exact ⟨_, rfl, .waiting (Or.inl rfl) (he.mono sub) fun parent hp => by rw [hg] at hp; cases hp⟩
    | lead hg hl =>
      rw [Job.gatherer?_whole] at hg
      refine ⟨_, rfl, .waiting (Or.inl rfl) (he.mono sub) fun parent hp => ?_⟩
      rw [hg] at hp; cases hp
      exact Build.getLast?_documents numbered hnode hg hl
  | waiting hp he hl =>
    cases h with
    | pass | meet => exact ⟨_, rfl, .waiting (Or.inr rfl) (he.mono sub) hl⟩
    | own hg =>
      rw [Job.gatherer?_whole] at hg
      exact ⟨_, rfl, .rendering (.own hg (he.mono sub))⟩
    | gather hg =>
      rw [Job.gatherer?_whole] at hg
      exact ⟨_, rfl, .rendering ((hgather _ rfl hg).mono sub)⟩
    | _ => rcases hp with hp | hp <;> cases hp
  | rendering hc =>
    cases h with
    | render hr => exact ⟨_, rfl, .rendered (by decide) (hc.mono sub) ⟨state, here, _, hr⟩⟩
  | rendered hp hc hr =>
    cases h with
    | rootFile | prepare | write | note =>
      exact ⟨_, rfl, .rendered (by decide) (hc.mono sub) (hr.mono sub)⟩
    | _ => exact absurd hp (by decide)

end CourseSite
