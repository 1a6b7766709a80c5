/-
  Builds with a cache and builds without one.

  * `Move.IgnoresCache`: a move that does the same whatever is kept in the cache; all moves of the
    standard pipeline do, but for the one that renders.
  * `Truthful`: under the file of a written page, the cache keeps only what its title and some text
    are rendered to.
  * `render_html`: rendering looks up and keeps just that; hence `truthful_of_history`.
  * `step_withoutCache`, `perform_withoutCache`: step by step, a build without a cache goes through
    the same states, but for what is kept.
  * `Session.Event`, `Session.live`: builds of a session, between which the files change.
  * `Session.live_withoutCache`: the cache makes no difference to what any of them writes.
-/
import CourseSite.Languages.Common
import CourseSite.Proofs.Cache.Store
import CourseSite.Proofs.Site.Separation

namespace CourseSite

/-! ## Leaving the cache out -/

/-- The workspace with other contents of the caches. -/
def Workspace.withCache (workspace : Workspace) (cache : CacheStore) : Workspace :=
  { workspace with cache := cache }

/-- The state with other contents of the caches. -/
def BuildState.withCache (state : BuildState) (cache : CacheStore) : BuildState :=
  { state with workspace := state.workspace.withCache cache }

/-- The verdict with other contents of the caches. -/
def Verdict.withCache (cache : CacheStore) : Verdict → Verdict
  | .proceed job workspace => .proceed job (workspace.withCache cache)
  | .stop text workspace => .stop text (workspace.withCache cache)
  | .fail error workspace => .fail error (workspace.withCache cache)
  | .crash => .crash
  | .blocked => .blocked

/-- The site with the cache that keeps nothing. -/
def Site.withoutCache (site : Site) : Site := { site with cache := .null }

/-- The build with the cache that keeps nothing. -/
def Build.withoutCache (build : Build) : Build := { build with site := build.site.withoutCache }

/-- The move does the same to a page without a cache as with one, but for what is kept. -/
def Move.IgnoresCacheAt (move : Move) (site : Site) (job : Job) (workspace : Workspace) : Prop :=
  ∀ cache, move site.withoutCache job (workspace.withCache cache) =
    (move site job workspace).withCache cache

/-- The move does the same without a cache as with one, whatever is kept. -/
def Move.IgnoresCache (move : Move) : Prop :=
  ∀ site job workspace, move.IgnoresCacheAt site job workspace

theorem Workspace.changeBarrier_withCache (workspace : Workspace) (cache : CacheStore) (node : Node)
    (change : Barrier → Barrier) :
    (workspace.withCache cache).changeBarrier node change =
      (workspace.changeBarrier node change).withCache cache := by
  unfold changeBarrier
  cases node.parent <;> rfl

/-! ## Moves -/

theorem ignoresCache_readBody : Move.readBody.IgnoresCache := fun site job workspace cache => by
  have hfiles : (workspace.withCache cache).files = workspace.files := rfl
  rw [Move.readBody, Move.readBody, hfiles]
  cases ContentTree.readBody workspace.files job.node.page <;> rfl

theorem ignoresCache_leaveVirtual : Move.IgnoresCache Stage.leaveVirtual :=
  fun site job workspace cache => by
    rw [Stage.leaveVirtual, Stage.leaveVirtual]
    split <;> rfl

theorem ignoresCache_replaceCalls : Move.IgnoresCache Stage.replaceCalls :=
  fun site job workspace cache => by
    have hexpand : site.withoutCache.registry.expand (workspace.withCache cache).files
        (Stage.pageInfo site.withoutCache job.node) job.text =
        site.registry.expand workspace.files (Stage.pageInfo site job.node) job.text := rfl
    rw [Stage.replaceCalls, Stage.replaceCalls, hexpand]
    rcases site.registry.expand workspace.files (Stage.pageInfo site job.node) job.text with
      (error | _) | text <;> rfl

theorem gatherer?_withoutCache (site : Site) (job : Job) :
    Stage.gatherer? site.withoutCache job = Stage.gatherer? site job := rfl

theorem ignoresCache_contribute : Move.IgnoresCache Stage.contribute :=
  fun site job workspace cache => by
    rw [Stage.contribute, Stage.contribute, gatherer?_withoutCache]
    cases Stage.gatherer? site job with
    | none => rfl
    | some parent =>
      dsimp only
      rw [Workspace.changeBarrier_withCache, Site.withoutCache]
      split <;> rfl

theorem ignoresCache_awaitSiblings : Move.IgnoresCache Stage.awaitSiblings :=
  fun site job workspace cache => by
    have hstanding : (workspace.withCache cache).standing job = workspace.standing job := rfl
    rw [Stage.awaitSiblings, Stage.awaitSiblings, gatherer?_withoutCache, hstanding]
    cases Stage.gatherer? site job with
    | none => rfl
    | some parent => cases workspace.standing job <;> rfl

theorem ignoresCache_gather (fileName separator : String) :
    Move.IgnoresCache (Stage.gather fileName separator) := fun site job workspace cache => by
  rw [Stage.gather, Stage.gather, gatherer?_withoutCache]
  cases Stage.gatherer? site job <;> rfl

theorem ignoresCache_makeDirectory : Move.IgnoresCache Stage.makeDirectory :=
  fun site job workspace cache => by
    have hfile : job.outputFile site.withoutCache = job.outputFile site := rfl
    have hfiles : (workspace.withCache cache).files = workspace.files := rfl
    delta Stage.makeDirectory
    rw [hfile, hfiles]
    cases (job.outputFile site).parent? with
    | none => rfl
    | some directory =>
      dsimp only
      rcases workspace.files.createDirectories directory with ⟨files, _ | error⟩ <;> rfl

theorem ignoresCache_writeFile : Move.IgnoresCache Stage.writeFile :=
  fun site job workspace cache => by
    have hfile : job.outputFile site.withoutCache = job.outputFile site := rfl
    have hfiles : (workspace.withCache cache).files = workspace.files := rfl
    delta Stage.writeFile
    rw [hfile, hfiles]
    cases workspace.files.write (job.outputFile site) job.text.toUTF8 <;> rfl

theorem ignoresCache_noteOutput : Move.IgnoresCache Stage.noteOutput := fun _ _ _ _ => rfl

/-- **Moves.** Of the moves of the standard pipeline, only the one that renders looks at the
    cache. -/
theorem Waypoint.ignoresCache_of_ahead {renderer : Renderer} {fileName separator : String}
    {point next : Waypoint} {name : String} {move : Move}
    (h : point.ahead renderer fileName separator = some ((name, move), next))
    (hpoint : point ≠ .rendering) : move.IgnoresCache := by
  cases point with
  | rendering => exact absurd rfl hpoint
  | through => cases h
  | reading => cases h; exact ignoresCache_readBody
  | skipping => cases h; exact ignoresCache_leaveVirtual
  | expanding => cases h; exact ignoresCache_replaceCalls
  | contributing => cases h; exact ignoresCache_contribute
  | awaiting => cases h; exact ignoresCache_awaitSiblings
  | gathering => cases h; exact ignoresCache_gather fileName separator
  | preparing => cases h; exact ignoresCache_makeDirectory
  | writing => cases h; exact ignoresCache_writeFile
  | noting => cases h; exact ignoresCache_noteOutput

/-! ## What is kept -/

/-- The file of a written page, seen from the output directory. -/
def ContentTree.outputPathOf (tree : ContentTree) (fileName : String) (node : Node) : Path :=
  match tree.gatherer? node with
  | none => node.page.output
  | some parent => (parent.page.output.parent?.getD ⟨""⟩).join ⟨fileName⟩

/-- The title under which a page is rendered: its own, or that of the aggregate page that gathers
    it. -/
def ContentTree.titleOf (tree : ContentTree) (node : Node) : String :=
  (tree.directoryOf node).page.title

/-- Under the file of a written page, the cache keeps only what its title and some text are
    rendered to. -/
def Truthful (markdown : Bool → String → String) (tree : ContentTree) (fileName : String)
    (handle : CacheHandle) (cache : CacheStore) : Prop :=
  ∀ node, tree.IsWriter node → ∀ text output,
    cache.getText? handle Renderer.pagesBucket (tree.outputPathOf fileName node).text
        (Renderer.pageTag (tree.titleOf node) text) = some output →
      output = Renderer.document markdown true (tree.titleOf node) text

/-- No two written pages have one file. -/
def ContentTree.HasDistinctOutputs (tree : ContentTree) (fileName : String) : Prop :=
  ∀ node other, tree.IsWriter node → tree.IsWriter other →
    tree.outputPathOf fileName node = tree.outputPathOf fileName other → node = other

/-- The names in the path of a written page, if it is a page file or the files of aggregated pages
    have a plain name. -/
theorem ContentTree.outputPathOf_eq {reader : Yaml.Reader} {fs : FileSystem}
    {format : ContentFormat} {root : Path} {tree : ContentTree} {fileName : String} {node : Node}
    (loaded : load reader fs format root = .ok tree)
    (hnode : tree.node? node.id = some node) (hname : Path.IsComponent fileName) :
    tree.outputPathOf fileName node =
      ⟨"/".intercalate (tree.slugsOf format (tree.directoryOf node) ++
        [tree.leafOf fileName node])⟩ := by
  have hdirectory := node?_directoryOf (numbered_of_load loaded) hnode
  rw [outputPathOf, leafOf]
  rw [directoryOf] at hdirectory ⊢
  cases hg : tree.gatherer? node with
  | none => exact output_eq loaded hnode
  | some parent =>
    rw [hg, Option.getD_some] at hdirectory
    dsimp only
    rw [parent?_output loaded hdirectory, Option.getD_some, Option.getD_some,
      Path.join_intercalate (isComponent_of_mem_slugsOf loaded hdirectory) hname]
    rfl

/-- Written pages have different files, if the files of aggregated pages have a plain name other
    than that of the page files. -/
theorem ContentTree.hasDistinctOutputs_of_isComponent {reader : Yaml.Reader} {fs : FileSystem}
    {format : ContentFormat} {root : Path} {tree : ContentTree} {fileName : String}
    (loaded : load reader fs format root = .ok tree) (hname : Path.IsComponent fileName)
    (hindex : fileName ≠ "index.html") : tree.HasDistinctOutputs fileName := by
  intro node other hnode hother heq
  have numbered := numbered_of_load loaded
  have names {node : Node} (hnode : tree.IsWriter node) :
      (tree.outputPathOf fileName node).parts =
        tree.slugsOf format (tree.directoryOf node) ++ [tree.leafOf fileName node] := by
    have hdirectory := node?_directoryOf numbered hnode.known
    rw [outputPathOf_eq loaded hnode.known hname, Path.parts_intercalate]
    refine Path.isComponent_of_mem_concat (isComponent_of_mem_slugsOf loaded hdirectory) ?_
    unfold leafOf
    split
    · exact hname
    · exact Path.isComponent_index
  obtain ⟨hslugs, hleaf⟩ := List.append_inj' ((names hnode).symm.trans
    ((congrArg Path.parts heq).trans (names hother))) rfl
  exact eq_of_directoryOf_eq (fun _ _ _ _ _ _ => hindex) hnode hother
    (eq_of_slugsOf_eq loaded (node?_directoryOf numbered hnode.known)
      (node?_directoryOf numbered hother.known) hslugs) (List.singleton_inj.1 hleaf)

theorem Tokens.string?_ofNode (tree : ContentTree) (node : Node) :
    (Tokens.ofNode tree node).string? "title" = some node.page.title := by
  simp only [Tokens.string?, Tokens.ofNode, List.foldl_cons, List.foldl_nil,
    Dictionary.get?_insert]
  rfl

/-- A tag belongs to one text, if the title is the same. -/
theorem Renderer.pageTag_inj {title text text' : String} :
    pageTag title text = pageTag title text' ↔ text = text' := by
  simp only [pageTag, ← String.toList_inj, String.toList_append, List.append_cancel_left_eq]

theorem Renderer.pageTag_ne_empty (title text : String) : pageTag title text ≠ "" := by
  rw [pageTag, ne_eq, ← String.toList_eq_nil_iff]
  simp

namespace Build
variable {markdown : Bool → String → String} {build : Build} {fileName separator : String}
  {past : List BuildState} {state : BuildState} {job : Job}

/-- A page that comes to be rendered is written under the title and to the file that belong to
    it. -/
theorem Composed.output_and_title (h : build.Composed fileName separator past job) :
    job.outputPath = build.site.tree.outputPathOf fileName job.node ∧
      (job.tokens.string? "title").getD "" = build.site.tree.titleOf job.node := by
  cases h with
  | @own node text hg =>
    change node.page.output = build.site.tree.outputPathOf fileName node ∧
      ((Tokens.ofNode build.site.tree node).string? "title").getD "" = build.site.tree.titleOf node
    rw [ContentTree.outputPathOf, ContentTree.titleOf,
      ContentTree.directoryOf_of_gatherer?_eq_none hg, hg, Tokens.string?_ofNode]
    exact ⟨rfl, rfl⟩
  | @combined node parent texts hg =>
    have htitle : (Tokens.string? (Dictionary.insert "url" (.string parent.page.url)
        (Dictionary.insert "title" (.string parent.page.title)
          (Tokens.ofNode build.site.tree node))) "title") = some parent.page.title := by
      rw [Tokens.string?, Dictionary.get?_insert, if_neg (by simp), Dictionary.get?_insert,
        if_pos rfl]; rfl
    change (parent.page.output.parent?.getD ⟨""⟩).join ⟨fileName⟩ =
      build.site.tree.outputPathOf fileName node ∧ _ = build.site.tree.titleOf node
    rw [ContentTree.outputPathOf, ContentTree.titleOf, ContentTree.directoryOf, hg]
    exact ⟨rfl, congrArg (Option.getD · "") htitle⟩

/-- **Rendering.**  With truthful contents of the cache, a page that comes to be rendered becomes
    the document of its title and its text, found or made, and the contents stay truthful. -/
theorem render_html (distinct : build.site.tree.HasDistinctOutputs fileName)
    {cache : CacheStore}
    (truthful : Truthful markdown build.site.tree fileName build.site.cache cache)
    (hcomposed : build.Composed fileName separator past job)
    (hnode : build.site.tree.node? job.node.id = some job.node) :
    ∃ cache', Truthful markdown build.site.tree fileName build.site.cache cache' ∧
      (Renderer.html markdown true).render build.site job cache =
        .ok (Renderer.document markdown true (build.site.tree.titleOf job.node) job.text,
          cache') := by
  obtain ⟨hpath, htitle⟩ := hcomposed.output_and_title
  obtain ⟨hwriter, -⟩ := hcomposed.isWriter hnode
  simp only [Renderer.html, hpath, htitle]
  cases hkept : cache.getText? build.site.cache Renderer.pagesBucket
    (build.site.tree.outputPathOf fileName job.node).text
    (Renderer.pageTag (build.site.tree.titleOf job.node) job.text) with
  | some output =>
    exact ⟨cache, truthful, by rw [← truthful job.node hwriter job.text output hkept]⟩
  | none =>
    refine ⟨_, fun node hnode text output hgiven => ?_, rfl⟩
    rw [CacheStore.getText?_setText] at hgiven
    split at hgiven
    · rename_i hplace
      -- The place is that of the page itself, and so is the title.
      obtain ⟨-, -, -, hsame⟩ := hplace
      obtain rfl : node = job.node := distinct node job.node hnode hwriter (congrArg Path.mk hsame)
      split at hgiven
      · rename_i htag
        have hne := Renderer.pageTag_ne_empty (build.site.tree.titleOf job.node) text
        rw [← Renderer.pageTag_inj.1 (htag.resolve_left hne), Option.some.inj hgiven]
      · cases hgiven
    · exact truthful node hnode text output hgiven

theorem render_withoutCache (hcomposed : build.Composed fileName separator past job)
    (cache : CacheStore) :
    (Renderer.html markdown true).render build.site.withoutCache job cache =
      .ok (Renderer.document markdown true (build.site.tree.titleOf job.node) job.text, cache) := by
  rw [← hcomposed.output_and_title.2]; rfl

theorem ignoresCacheAt_renderText (distinct : build.site.tree.HasDistinctOutputs fileName)
    {workspace : Workspace}
    (truthful : Truthful markdown build.site.tree fileName build.site.cache workspace.cache)
    (hcomposed : build.Composed fileName separator past job)
    (hnode : build.site.tree.node? job.node.id = some job.node) :
    Move.IgnoresCacheAt (Stage.renderText (.html markdown true)) build.site job workspace := by
  intro cache
  obtain ⟨cache', -, hrender⟩ := render_html distinct truthful hcomposed hnode
  rw [Stage.renderText, Stage.renderText, hrender, render_withoutCache hcomposed]; rfl

section
variable (regular : build.Regular (.html markdown true) fileName separator)
  (distinct : build.site.tree.HasDistinctOutputs fileName) {workspace : Workspace}
  (truthful : Truthful markdown build.site.tree fileName build.site.cache workspace.cache)
  {cancelled : Bool}
include regular distinct truthful

/-- What is kept in the cache is always truthful. -/
theorem truthful_of_history
    (history : build.History (build.start workspace cancelled) (state :: past)) :
    Truthful markdown build.site.tree fileName build.site.cache state.workspace.cache := by
  refine History.turns
    (P := fun _ state =>
      Truthful markdown build.site.tree fileName build.site.cache state.workspace.cache)
    regular truthful ?_ (fun _ htruthful _ => htruthful) history
  intro past state worker activity activity' shared history htruthful ha turn
  show Truthful markdown build.site.tree fileName build.site.cache shared.workspace.cache
  rcases cache_of_turn turn with hsame | ⟨job, text, cache, rfl, hrender, rfl⟩
  · rw [hsame]; exact htruthful
  · have hnode := ((dispatched_of_history regular history).held ha rfl).1
    have hcomposed :=
      composed_of_rendering (gathers_of_history regular history) (List.mem_of_getElem? ha)
    obtain ⟨cache', htruthful', hrender'⟩ := render_html distinct htruthful hcomposed hnode
    cases hrender.symm.trans hrender'
    exact htruthful'

/-! ## Steps -/

theorem work_withoutCache
    (history : build.History (build.start workspace cancelled) (state :: past)) {worker : Nat}
    {point : Waypoint} (ha : state.workers[worker]? = some (.working job (build.movesFrom point)))
    (cache : CacheStore) :
    build.withoutCache.work job (build.movesFrom point) (state.withCache cache) =
      (build.work job (build.movesFrom point) state).map (Prod.map id (·.withCache cache)) := by
  have hmove : ∀ name move next,
      point.ahead (.html markdown true) fileName separator = some ((name, move), next) →
        Move.IgnoresCacheAt move build.site job state.workspace := by
    intro name move next hahead
    by_cases hpoint : point = .rendering
    · subst hpoint
      cases hahead
      exact ignoresCacheAt_renderText distinct
        (truthful_of_history regular distinct truthful history)
        (composed_of_rendering (gathers_of_history regular history) (List.mem_of_getElem? ha))
        ((dispatched_of_history regular history).held ha rfl).1
    · exact Waypoint.ignoresCache_of_ahead hahead hpoint build.site job state.workspace
  rw [movesFrom_eq regular.standard]
  cases hahead : point.ahead (.html markdown true) fileName separator with
  | none => rfl
  | some ahead =>
    obtain ⟨⟨name, move⟩, next⟩ := ahead
    have hverdict : move build.withoutCache.site job (state.withCache cache).workspace = _ :=
      hmove name move next hahead cache
    simp only [work, hverdict]
    cases move build.site job state.workspace <;> rfl

theorem advance_withoutCache
    (history : build.History (build.start workspace cancelled) (state :: past)) {worker : Nat}
    {activity : Activity} (ha : state.workers[worker]? = some activity) (cache : CacheStore) :
    build.withoutCache.advance (state.withCache cache) activity =
      (build.advance state activity).map (Prod.map id (·.withCache cache)) := by
  cases activity with
  | working job moves =>
    obtain ⟨point, rfl⟩ := onWay_of_history regular history state List.mem_cons_self job moves
      (List.mem_of_getElem? ha)
    exact work_withoutCache regular distinct truthful history ha cache
  | taking =>
    have htake : build.withoutCache.take (state.withCache cache) =
        Prod.map id (·.withCache cache) (build.take state) := by
      unfold take
      change (match build.site.tree.preorder[state.cursor]?.bind build.site.tree.node? with
        | none => _ | some node => _) = _
      dsimp only
      cases build.site.tree.preorder[state.cursor]?.bind build.site.tree.node? <;> rfl
    simp only [advance, htake, Option.map_some]
  | failing node error =>
    rw [advance, advance, show (state.withCache cache).failed = state.failed from rfl]
    split <;> rfl
  | reporting done =>
    rw [advance, advance, show build.withoutCache.reports = build.reports from rfl]
    split <;> rfl
  | arriving node success =>
    simp only [advance, arrive, BuildState.withCache, Workspace.changeBarrier_withCache]; rfl
  | falling node =>
    simp only [advance, arrive, BuildState.withCache, Workspace.changeBarrier_withCache]; rfl
  | looking | ending | keeping | counting | alarming | gone => rfl

/-- **Steps.** Without a cache, every worker takes the same steps. -/
theorem step_withoutCache
    (history : build.History (build.start workspace cancelled) (state :: past)) (worker : Nat)
    (cache : CacheStore) :
    build.withoutCache.step worker (state.withCache cache) =
      (build.step worker state).map (·.withCache cache) := by
  have hworkers : (state.withCache cache).workers = state.workers := rfl
  rw [step, step, hworkers]
  cases ha : state.workers[worker]? with
  | none => rfl
  | some activity =>
    have hadvance := advance_withoutCache regular distinct truthful history ha cache
    simp only [Option.bind_eq_bind, Option.bind_some, hadvance]
    cases build.advance state activity <;> rfl

/-- **Runs.** Without a cache, a build goes through the same states, but for what is kept. -/
theorem perform_withoutCache
    (history : build.History (build.start workspace cancelled) (state :: past))
    (signals : List Signal) (cache : CacheStore) :
    build.withoutCache.perform (state.withCache cache) signals =
      (build.perform state signals).withCache cache := by
  induction signals generalizing state past with
  | nil => rfl
  | cons signal signals ih =>
    have hreact : build.withoutCache.react (state.withCache cache) signal =
        (build.react state signal).withCache cache := by
      cases signal with
      | worker number =>
        rw [react, react, step_withoutCache regular distinct truthful history]
        cases build.step number state <;> rfl
      | cancellation => rfl
    obtain ⟨past', history'⟩ := exists_history_react history signal
    rw [perform, List.foldl_cons, hreact]
    exact ih history'

end

end Build

/-! ## Sessions -/

/-- The session with the cache that keeps nothing. -/
def Session.withoutCache (session : Session) : Session := { session with cache := .null }

namespace Session

/-- A build that is asked of a session: where to, who is told of it, and what moves it on. -/
structure Order where
  outputRoot : Path
  reports : Bool
  cancelsAt : Nat → Nat → Bool
  /-- The build is cancelled before it starts. -/
  cancelled : Bool
  signals : List Build.Signal

/-- What happens in the life of a session. -/
inductive Event where
  /-- The files are changed. -/
  | edit (files : FileSystem)
  | build (order : Order)

/-- The build of an order. -/
def ordered (session : Session) (order : Order) : Build :=
  session.build order.outputRoot order.reports order.cancelsAt

/-- What an order comes to: a state on the way of its build, or at the end. -/
def carryOut (session : Session) (order : Order) (workspace : Workspace) : BuildState :=
  (session.ordered order).perform ((session.ordered order).start workspace order.cancelled)
    order.signals

/-- The workspace after an event. -/
def happen (session : Session) (workspace : Workspace) : Event → Workspace
  | .edit files => { workspace with files := files }
  | .build order => (session.carryOut order workspace).workspace

/-- The workspace after some events. -/
def live (session : Session) (events : List Event) (workspace : Workspace) : Workspace :=
  events.foldl session.happen workspace

/-- What is kept in the cache of the session is truthful. -/
def Trusts (session : Session) (cache : CacheStore) : Prop :=
  Truthful session.languages.markdown session.tree session.settings.aggregateFile session.cache
    cache

variable {reader : Yaml.Reader} {files : FileSystem} {session : Session} {workspace : Workspace}

theorem exists_history_carryOut (session : Session) (order : Order) (workspace : Workspace) :
    ∃ past, (session.ordered order).History
      ((session.ordered order).start workspace order.cancelled)
      (session.carryOut order workspace :: past) := Build.exists_history_perform .start

section
variable (loaded : ContentTree.load reader files session.settings.format
    session.settings.sourceDirectory = .ok session.tree)
  (html : session.settings.renderer = .html)
  (distinct : session.tree.HasDistinctOutputs session.settings.aggregateFile)
include loaded html

theorem regular_ordered (order : Order) : (session.ordered order).Regular
    (.html session.languages.markdown true) session.settings.aggregateFile
    session.settings.separator := by
  have standard : (session.ordered order).Standard (.html session.languages.markdown true)
      session.settings.aggregateFile session.settings.separator := by
    rw [Build.Standard, ordered, build, pipeline, html]
  exact Build.regular_of_load loaded standard

include distinct

/-- Whatever happens, what is kept in the cache stays truthful. -/
theorem truthful_live
    (truthful : session.Trusts workspace.cache) (events : List Event) :
    session.Trusts (session.live events workspace).cache := by
  induction events generalizing workspace with
  | nil => exact truthful
  | cons event events ih =>
    change session.Trusts (session.live events (session.happen workspace event)).cache
    refine ih ?_
    cases event with
    | edit files => exact truthful
    | build order =>
      obtain ⟨past, history⟩ := session.exists_history_carryOut order workspace
      exact Build.truthful_of_history (regular_ordered loaded html order) distinct truthful history

/-- Without a cache, an order comes to the same, but for what is kept. -/
theorem carryOut_withoutCache
    (truthful : session.Trusts workspace.cache) (order : Order) (cache : CacheStore) :
    session.withoutCache.carryOut order (workspace.withCache cache) =
      (session.carryOut order workspace).withCache cache :=
  Build.perform_withoutCache (regular_ordered loaded html order) distinct truthful .start
    order.signals cache

/-- Without a cache, a life takes the same course, but for what is kept. -/
theorem live_withCache
    (truthful : session.Trusts workspace.cache) (events : List Event) (cache : CacheStore) :
    session.withoutCache.live events (workspace.withCache cache) =
      (session.live events workspace).withCache cache := by
  induction events generalizing workspace with
  | nil => rfl
  | cons event events ih =>
    have hhappen : session.withoutCache.happen (workspace.withCache cache) event =
        (session.happen workspace event).withCache cache := by
      cases event with
      | edit files => rfl
      | build order =>
        rw [happen, carryOut_withoutCache loaded html distinct truthful order cache]; rfl
    have htruthful := truthful_live loaded html distinct truthful [event]
    rw [live, List.foldl_cons, hhappen]
    exact ih htruthful

/-- **The cache makes no difference.**  Take a session of a loaded tree with the HTML renderer, in
    which no two written pages have one file, and whose cache keeps nothing at first.  Let its
    files be changed and builds be carried out, to their ends or not, in any order and any number.
    Then every order comes to the same state as it would come to without a cache in the same
    workspace, but for what is kept: to the same files and the same outcome.  And a session without
    a cache would have come to the same workspace all along. -/
theorem live_withoutCache
    (fresh : ∀ bucket key tag, workspace.cache.get? session.cache bucket key tag = none)
    (events : List Event) :
    (∀ order,
      session.withoutCache.carryOut order (session.live events workspace) =
          (session.carryOut order (session.live events workspace)).withCache
            (session.live events workspace).cache ∧
        (session.withoutCache.carryOut order (session.live events workspace)).workspace.files =
          (session.carryOut order (session.live events workspace)).workspace.files ∧
        (session.withoutCache.ordered order).outcome
            (session.withoutCache.carryOut order (session.live events workspace)) =
          (session.ordered order).outcome
            (session.carryOut order (session.live events workspace))) ∧
      session.withoutCache.live events workspace =
        (session.live events workspace).withCache workspace.cache := by
  have truthful : session.Trusts workspace.cache := by
    intro node _ text output hgiven
    rw [CacheStore.getText?, fresh] at hgiven
    cases hgiven
  refine ⟨fun order => ?_, live_withCache loaded html distinct truthful events workspace.cache⟩
  have hsame := carryOut_withoutCache loaded html distinct
    (truthful_live loaded html distinct truthful events) order (session.live events workspace).cache
  have hself : (session.live events workspace).withCache (session.live events workspace).cache =
      session.live events workspace := rfl
  rw [hself] at hsame
  rw [hsame]
  exact ⟨rfl, rfl, rfl⟩

end

end Session

/-! ## A life with an edit -/

namespace Edited

/-- A page with a page below it that has the text. -/
def files (text : String) : FileSystem where
  entries :=
    [(["content"], .directory),
      (["content", "manifest.yaml"], .file "[default, one]".toUTF8),
      (["content", "default.md"], .file "---\naggregate: true\n---\nHome".toUTF8),
      (["content", "one.md"], .file text.toUTF8)]
  current := []

/-- The session of the course. -/
def session : Session :=
  match Session.load ⟨files "One", [], 1, .common⟩ none none 0 with
  | .ok session => session
  | .error _ => ⟨.common, Settings.default ⟨""⟩ 1, ⟨[], ⟨""⟩⟩, .empty, .null⟩

theorem loaded : Session.load ⟨files "One", [], 1, .common⟩ none none 0 = .ok session := by
  have hok : (Session.load ⟨files "One", [], 1, .common⟩ none none 0).isOk = true := by
    decide +kernel
  obtain ⟨loaded, h⟩ := Attempt.exists_eq_ok hok
  rw [session, h]

/-- The course is to be built by one worker. -/
def order : Session.Order :=
  ⟨⟨"/site"⟩, false, fun _ _ => false, false, List.replicate 50 (.worker 0)⟩

/-- The course was built, and then the page below was changed. -/
def edited : Workspace :=
  session.live [.build order, .edit (files "Two")] (.ofTree session.tree (files "One") .empty)

end Edited

open Edited in
/-- After the edit the cache still keeps both pages, and the new text is written all the same. -/
theorem live_withoutCache_edited :
    edited.cache.items.map (fun (slot, _) => slot.key) = ["index.html", "all.html"] ∧
      ((session.withoutCache.carryOut order edited).workspace.files.readText
        ⟨"/site/all.html"⟩).toOption =
          some (Renderer.document Markdown.toHtml true "Content" "Two") := by
  have tree := Session.tree_eq loaded
  have html : session.settings.renderer = .html := by decide +kernel
  have hname : session.settings.aggregateFile = "all.html" := by decide +kernel
  have distinct : session.tree.HasDistinctOutputs session.settings.aggregateFile := by
    rw [hname]
    exact ContentTree.hasDistinctOutputs_of_isComponent tree (by decide) (by decide)
  have fresh : ∀ bucket key tag, (Workspace.ofTree session.tree (files "One") .empty).cache.get?
      session.cache bucket key tag = none := by
    intro bucket key tag
    cases session.cache <;> rfl
  obtain ⟨-, hfiles, -⟩ := (Session.live_withoutCache tree html distinct fresh
    [.build order, .edit (files "Two")]).1 order
  refine ⟨by decide +kernel, ?_⟩
  rw [edited, hfiles]
  decide +kernel

end CourseSite
