/-
  The account of a whole build.

  * `ContentTree.handsOn`, `stopsEarly`: the pages that a stage of the standard pipeline
    stops: those without a document, and the documents below an aggregate page but for
    the last one.
  * `stopped_of_history`: as long as nothing fails, just these pages are counted as
    stopped.
  * `account_of_history`: dispatch and counts of every build of a loaded tree.
-/
import CourseSite.Proofs.Site.Ledger
import CourseSite.Proofs.Site.Output

namespace CourseSite

namespace ContentTree
variable {tree : ContentTree}

/-- The page has a document, and hands its text on: its parent is an aggregate page with
    another document as the last one. -/
def handsOn (tree : ContentTree) (node : Node) : Bool :=
  !node.page.isVirtual &&
    (tree.gatherer? node).any fun parent => !(tree.documents parent).getLast?.any (·.id == node.id)

/-- A stage of the standard pipeline stops the page. -/
def stopsEarly (tree : ContentTree) (node : Node) : Bool :=
  node.page.isVirtual || tree.handsOn node

theorem countP_stopsEarly (tree : ContentTree) (nodes : List Node) :
    nodes.countP tree.stopsEarly =
      nodes.countP (·.page.isVirtual) + nodes.countP tree.handsOn := by
  induction nodes with
  | nil => rfl
  | cons node nodes ih =>
    rw [List.countP_cons, List.countP_cons, List.countP_cons, ih]
    by_cases hv : node.page.isVirtual = true
    · simp [stopsEarly, handsOn, hv]; omega
    · simp [stopsEarly, hv]; omega

theorem stopsEarly_of_isWriter {node : Node} (h : tree.IsWriter node) :
    tree.stopsEarly node = false := by
  rw [stopsEarly, handsOn, h.document]
  cases hg : tree.gatherer? node with
  | none => rfl
  | some parent => simp [h.last parent hg]

/-- A document that is not the last one below an aggregate page hands its text on. -/
theorem stopsEarly_of_gatherer? {node parent : Node} (numbered : tree.Numbered)
    (hnode : tree.node? node.id = some node) (hg : tree.gatherer? node = some parent)
    (hl : Stage.lastDocument? tree parent ≠ some node.position)
    (hv : node.page.isVirtual = false) : tree.stopsEarly node = true := by
  obtain ⟨hp, hparent⟩ := numbered.parent?_eq_some_iff.1 (gatherer?_eq_some_iff.1 hg).1
  rw [numbered.lastDocument?_eq hparent] at hl
  simp only [stopsEarly, handsOn, hv, hg, Option.any_some, Bool.not_false, Bool.true_and,
    Bool.false_or]
  cases hlast : (tree.documents parent).getLast? with
  | none => rfl
  | some last =>
    -- Another node has another number.
    have hne : last.id ≠ node.id := by
      intro hid
      have hm := List.mem_of_getLast? hlast
      have := ((numbered.mem_documents_iff hparent).1 hm).1
      rw [hid, hnode] at this
      cases this
      exact hl (by rw [hlast]; rfl)
    simp [hne]

end ContentTree

/-- The worker has a page on its way that is to be stopped, or just was. -/
def Activity.bringsStop (tree : ContentTree) : Activity → Bool
  | working job _ => tree.stopsEarly job.node
  | ending node _ => tree.stopsEarly node
  | _ => false

namespace Build
variable {build : Build} {renderer : Renderer} {fileName separator : String}
  {state shared : BuildState} {past : List BuildState} {worker : Nat}
  {activity activity' : Activity}

/-! ## Pages that are stopped -/

/-- A page ends its way early just if it is one of those that are stopped. -/
theorem stopped_of_stride (regular : build.Regular renderer fileName separator)
    (known : build.Gathers renderer fileName separator past state) {point : Waypoint} {job : Job}
    {node : Node} {stopped : Bool} {ws : Workspace}
    (hm : .working job (build.movesFrom point) ∈ state.workers)
    (hnode : build.site.tree.node? job.node.id = some job.node)
    (stride : Stride build renderer fileName separator point job state.workspace
      (.ending node stopped) ws) :
    stopped = build.site.tree.stopsEarly node := by
  cases stride with
  | leave hv => rw [ContentTree.stopsEarly, hv]; rfl
  | contribute hg hl =>
    have hcarries := known.carries hm
    rw [hcarries.gatherer?_eq (by decide)] at hg
    have hv : job.node.page.isVirtual = false := by
      cases hcarries with
      | contributing he => exact he.document
      | waiting hp => rcases hp with hp | hp <;> cases hp
      | rendered hp => exact absurd hp (by decide)
    exact (ContentTree.stopsEarly_of_gatherer? regular.numbered hnode hg hl hv).symm
  | done =>
    obtain ⟨before, text, hc, -, rfl⟩ := composed_of_writing known (by decide) hm
    exact (ContentTree.stopsEarly_of_isWriter (hc.isWriter hnode).1).symm

theorem eq_stopsEarly_of_ending (regular : build.Regular renderer fileName separator)
    {workspace : Workspace} {cancelled : Bool}
    (h : build.History (build.start workspace cancelled) (state :: past)) {node : Node}
    {stopped : Bool} (hm : .ending node stopped ∈ state.workers) :
    stopped = build.site.tree.stopsEarly node := by
  refine History.turns (P := fun _ state => ∀ node stopped, .ending node stopped ∈ state.workers →
    stopped = build.site.tree.stopsEarly node) regular (fun node stopped hm => ?_) ?_
    (fun _ ih _ => ih) h node stopped hm
  · cases eq_looking_of_mem_start hm
  · intro past state worker activity activity' shared history ih ha turn node stopped hm
    rcases mem_afterTurn hm with hm | rfl
    · exact ih node stopped hm
    · cases turn with
      | work stride =>
        exact stopped_of_stride regular (gathers_of_history regular history)
          (List.mem_of_getElem? ha) ((dispatched_of_history regular history).held ha rfl).1 stride

/-- Nothing has failed or crashed. -/
def IsClean (states : List BuildState) : Prop :=
  (∀ node error, ¬ Fails states node error) ∧ ∀ node, ¬ Crashes states node

theorem IsClean.before (h : IsClean (state :: past)) : IsClean past :=
  ⟨fun node error hf => h.1 node error (hf.later state), fun node hc => h.2 node (hc.later state)⟩

/-- As long as nothing fails, the pages to be stopped that were taken are counted as
    stopped, or still on their way. -/
theorem stopped_of_history (regular : build.Regular renderer fileName separator)
    {workspace : Workspace} {cancelled : Bool}
    (h : build.History (build.start workspace cancelled) (state :: past))
    (clean : IsClean (state :: past)) :
    (build.site.tree.nodes.take state.cursor).countP build.site.tree.stopsEarly =
      state.stopped + state.workers.countP (Activity.bringsStop build.site.tree) := by
  refine History.turns (P := fun past state => IsClean (state :: past) →
    (build.site.tree.nodes.take state.cursor).countP build.site.tree.stopsEarly =
      state.stopped + state.workers.countP (Activity.bringsStop build.site.tree)) regular
    (fun _ => ?_) ?_ (fun _ ih _ clean => ih clean.before) h clean
  · simp [start, Activity.bringsStop, List.countP_replicate]
  · intro past state worker activity activity' shared history ih ha turn clean
    have before := ih clean.before
    obtain ⟨others, hbefore, hafter⟩ := exists_others ha shared activity'
    rw [hbefore.countP_eq, List.countP_cons] at before
    rw [hafter.countP_eq, List.countP_cons]
    show (build.site.tree.nodes.take shared.cursor).countP _ = shared.stopped + _
    have hself : activity' ∈ (afterTurn state shared worker activity').workers :=
      mem_afterTurn_self ha
    cases turn with
    | miss hle =>
      rw [List.take_of_length_le hle] at before
      rw [List.take_of_length_le (Nat.le_succ_of_le hle)]
      exact before
    | @take node hn =>
      replace hn : build.site.tree.nodes[state.cursor]? = some node := hn
      simp only [Activity.bringsStop, Bool.false_eq_true, if_false, Nat.add_zero] at before
      rw [List.take_add_one, hn, List.countP_append, before, Option.toList_some,
        List.countP_singleton]
      exact Nat.add_assoc ..
    | work stride =>
      have hn := stride.node?_eq
      cases activity' with
      | working job moves | ending node stopped =>
        rw [Activity.bringsStop, Option.some.inj hn]; exact before
      | failing node error => exact absurd ⟨_, List.mem_cons_self, hself⟩ (clean.1 node error)
      | falling node => exact absurd ⟨_, List.mem_cons_self, hself⟩ (clean.2 node)
      | _ => cases stride
    | @finish node stopped =>
      rw [eq_stopsEarly_of_ending regular history (List.mem_of_getElem? ha)]
      simp only [Activity.bringsStop, Bool.false_eq_true, if_false] at before ⊢
      cases hs : build.site.tree.stopsEarly node <;>
        simp only [hs, Bool.false_eq_true, if_false, if_true, Bool.toNat_false, Bool.toNat_true]
          at before ⊢ <;>
        omega
    | _ => exact before

/-- Nothing has failed in a build that comes to no error. -/
theorem isClean_of_ok (known : build.Accounted past state) (ended : state.IsOver)
    {outcome : Outcome} (h : build.outcome state = .ok outcome) : IsClean (state :: past) := by
  obtain ⟨survived, hfirst, -⟩ := outcome_eq_ok_iff.1 h
  have hcrashed : ¬ state.Crashed := by
    intro hc
    rw [(any_isCrash_iff ended).2 hc] at survived; cases survived
  refine ⟨fun node error hf => ?_, fun node hc => hcrashed (known.crashed.1 ⟨node, hc⟩)⟩
  rcases known.lost hf with hfailed | ⟨_, hm, _, _, rfl⟩
  · rcases known.cause hfailed with hsome | ⟨_, hm, _, _, rfl⟩ | hc
    · rw [hfirst] at hsome; cases hsome
    · obtain ⟨_, hg⟩ := ended _ hm; cases hg
    · exact hcrashed hc
  · obtain ⟨_, hg⟩ := ended _ hm; cases hg

/-- The pages without a document and those that hand their text on are counted as stopped
    in a build that completed. -/
theorem stopped_of_completed (regular : build.Regular renderer fileName separator)
    {workspace : Workspace} {cancelled : Bool}
    (h : build.History (build.start workspace cancelled) (state :: past)) (ended : state.IsOver)
    {stats : Stats} (hout : build.outcome state = .ok (.completed stats)) :
    state.stopped = build.site.tree.nodes.countP (·.page.isVirtual) +
      build.site.tree.nodes.countP build.site.tree.handsOn := by
  have ledger := ledger_of_history regular.numbered h
  have clean := isClean_of_ok (accounted_of_history regular h) ended hout
  have hcompleted := ledger.eq_total_of_completed regular.numbered ended hout
  have hall : build.site.tree.nodes.length ≤ state.cursor := by
    have := ledger.completed_eq ended (outcome_eq_completed_iff.1 hout).1
    rw [ContentTree.size] at *; omega
  have hnone : state.workers.countP (Activity.bringsStop build.site.tree) = 0 := by
    refine List.countP_eq_zero.2 fun activity hm => ?_
    obtain ⟨crashed, rfl⟩ := ended activity hm
    simp [Activity.bringsStop]
  rw [← ContentTree.countP_stopsEarly, ← List.take_of_length_le hall,
    stopped_of_history regular h clean, hnone, Nat.add_zero]

/-! ## Dispatch and counts -/

/-- **The account of a build.** Whatever the stages do, in every history of the build of a
    loaded tree

    * the pages are taken in the order of the walk through the tree, each of them once;
    * after a failure all workers but one take one more page at most, after a cancellation
      all of them;
    * every report has the number of all pages.

    When the build is over,

    * each number up to the number of pages done was reported once, in some order;
    * it has completed only with all pages taken and done, and is cancelled only with some
      page left and a cancellation asked for;
    * if it has completed with the standard pipeline, just the pages without a document and
      the documents that an aggregate page has before its last one were stopped. -/
theorem account_of_history {reader : Yaml.Reader} {files : FileSystem} {format : ContentFormat}
    {root : Path} (loaded : ContentTree.load reader files format root = .ok build.site.tree)
    {workspace : Workspace} {cancelled : Bool}
    (history : build.History (build.start workspace cancelled) (state :: past)) :
    (claims (state :: past) <+: build.site.tree.preorder ∧ (claims (state :: past)).Nodup) ∧
    (∀ earlier before, earlier :: before <:+ state :: past →
      (earlier.failed = true → (claims (state :: past)).length ≤
        (claims (earlier :: before)).length + (build.crew - 1)) ∧
      (earlier.cancelled = true → (claims (state :: past)).length ≤
        (claims (earlier :: before)).length + build.crew)) ∧
    (∀ report ∈ state.reports, report.2 = build.site.tree.size) ∧
    (build.reports = false → state.reports = []) ∧
    (state.IsOver →
      (∀ outcome, build.outcome state = .ok outcome →
        outcome.stats.processed = state.completed ∧
          outcome.stats.total = build.site.tree.size) ∧
      (build.reports = true →
        (state.reports.map (·.1)).Perm (List.range' 1 state.completed)) ∧
      (∀ stats, build.outcome state = .ok (.completed stats) →
        stats.processed = stats.total ∧ claims (state :: past) = build.site.tree.preorder) ∧
      (∀ stats, build.outcome state = .ok (.cancelled stats) →
        stats.processed < stats.total ∧ state.cancelled = true) ∧
      ∀ renderer fileName separator stats, build.Standard renderer fileName separator →
        build.outcome state = .ok (.completed stats) →
        stats.stopped = build.site.tree.nodes.countP (·.page.isVirtual) +
          build.site.tree.nodes.countP build.site.tree.handsOn) := by
  have numbered := ContentTree.numbered_of_load loaded
  have ledger := ledger_of_history numbered history
  have htotal : build.total = build.site.tree.size := numbered.length_preorder
  refine ⟨⟨?_, ?_⟩, fun earlier before hs => ?_, fun report hm => ?_, ledger.silent,
    fun ended => ⟨fun outcome hout => ?_, ledger.reports_perm ended, fun stats hout => ?_,
      fun stats hout => ?_, fun renderer fileName separator stats standard hout => ?_⟩⟩
  · rw [ledger.claimed]; exact List.take_prefix ..
  · rw [ledger.claimed, numbered.preorder_eq]
    exact List.nodup_range.sublist (List.take_sublist ..)
  · have bound := fun halted => (claims_le_of_halted numbered history hs halted).2
    obtain ⟨_, hpast, hsuffix⟩ := history.exists_past (hs.subset List.mem_cons_self)
    constructor
    · intro hf
      have := bound (Or.inl hf)
      have := countP_isTaking_lt numbered hpast hf
      omega
    · intro hc
      have := bound (Or.inr hc)
      have : earlier.workers.countP Activity.isTaking ≤ build.crew :=
        (ledger_of_history numbered hpast).crew ▸ List.countP_le_length
      omega
  · rw [ledger.totals report hm, htotal]
  · obtain ⟨-, -, rfl⟩ := outcome_eq_ok_iff.1 hout
    constructor
    · split <;> rfl
    · rw [← htotal]; split <;> rfl
  · have hcompleted := ledger.eq_total_of_completed numbered ended hout
    obtain ⟨survived, -, -, rfl⟩ := outcome_eq_completed_iff.1 hout
    refine ⟨hcompleted.trans htotal.symm, ?_⟩
    have := ledger.completed_eq ended survived
    rw [ledger.claimed, List.take_of_length_le (by rw [numbered.length_preorder]; omega)]
  · obtain ⟨-, -, ⟨hlt, hc⟩, rfl⟩ := outcome_eq_cancelled_iff.1 hout
    exact ⟨hlt, hc⟩
  · have hstopped := stopped_of_completed (regular_of_load loaded standard) history ended hout
    obtain ⟨-, -, -, rfl⟩ := outcome_eq_completed_iff.1 hout
    exact hstopped

end Build

open Sample in
/-- All three pages of the course are done, and the first of the two below the home page
    was stopped. -/
theorem account_of_history_built :
    ∃ stats, build.outcome built = .ok (.completed stats) ∧ stats.processed = 3 ∧
      stats.stopped = 1 := by
  obtain ⟨past, history⟩ : ∃ past, build.History (build.start workspace false) (built :: past) :=
    Build.exists_history_run build workspace false
  have hgone : built.workers.all isHome = true := by decide +kernel
  have ended : built.IsOver := fun _ hm => ⟨false, eq_gone_of_all hgone hm⟩
  obtain ⟨-, -, -, -, account⟩ := Build.account_of_history loaded history
  obtain ⟨-, -, hcompleted, -, hstopped⟩ := account ended
  obtain ⟨stats, hout⟩ : ∃ stats, build.outcome built = .ok (.completed stats) :=
    ⟨_, Build.outcome_eq_completed_iff.2 ⟨by decide +kernel, by decide +kernel, by decide +kernel,
      rfl⟩⟩
  refine ⟨stats, hout, ?_, ?_⟩
  · have htotal : stats.total = 3 := by
      obtain ⟨-, -, -, rfl⟩ := Build.outcome_eq_completed_iff.1 hout
      decide +kernel
    exact (hcompleted stats hout).1.trans htotal
  · have hcount : build.site.tree.nodes.countP (·.page.isVirtual) +
        build.site.tree.nodes.countP build.site.tree.handsOn = 1 := by decide +kernel
    exact (hstopped _ _ _ stats standard hout).trans hcount

end CourseSite
