/-
  A build never gets stuck, and every build ends.

  * `exists_holds_of_work_eq_none`: a page that waits has an earlier sibling that is in
    the hand of another worker.
  * `exists_step_of_holds`: hence, by induction on the number of the page, some worker
    has a step as long as any page is in hand.
  * `rank_lt_of_turn`: every turn brings the build closer to its end, so that no
    history is longer than `Build.stepBound` allows (`length_le_of_history`).
  * `no_deadlock`: all of this for the builds of loaded trees.
-/
import CourseSite.Proofs.Attempt
import CourseSite.Proofs.Site.Dispatch
import CourseSite.Yaml.Read

namespace CourseSite

/-- The page has arrived at the barrier of its parent, if it has one. -/
def BuildState.Arrived (state : BuildState) (node : Node) : Prop :=
  ∀ p, node.parent = some p →
    ∃ arrival, state.workspace.arrival? node = some arrival ∧ arrival ≠ .pending

/-- The node is a page of the tree that comes before a sibling. -/
def ContentTree.Precedes (tree : ContentTree) (sibling node : Node) : Prop :=
  tree.node? sibling.id = some sibling ∧ sibling.parent = node.parent ∧
    sibling.position < node.position

namespace Build
variable {build : Build} {renderer : Renderer} {fileName separator : String}
  {state : BuildState}

/-! ## Waiting -/

theorem lt_of_precedes (numbered : build.site.tree.Numbered) {sibling node : Node}
    (hnode : build.site.tree.node? node.id = some node)
    (h : build.site.tree.Precedes sibling node) : sibling.id < node.id := by
  obtain ⟨hs, hp, hpos⟩ := h
  cases hparent : node.parent with
  | some p => exact numbered.lt_of_position_lt hs hnode (hp.trans hparent) hparent hpos
  | none =>
    -- The root has no sibling but itself.
    have h₀ := (numbered.parent_eq_none_iff hnode).1 hparent
    have h₁ := (numbered.parent_eq_none_iff hs).1 (hp.trans hparent)
    rw [h₁, ← h₀, hnode] at hs
    cases hs; omega

/-- What the barrier has at a place before a page is the arrival of a sibling. -/
theorem exists_sibling_of_arrival (numbered : build.site.tree.Numbered) {job : Job}
    {workspace : Workspace} {barrier : Barrier} {arrival : Arrival} {k : Nat}
    (hnode : build.site.tree.node? job.node.id = some job.node)
    (hb : workspace.barrier? job = some barrier) (hk : k < job.node.position)
    (ha : barrier.arrivals[k]? = some arrival) :
    ∃ sibling, build.site.tree.Precedes sibling job.node ∧ sibling.position = k ∧
      workspace.arrival? sibling = some arrival := by
  unfold Workspace.barrier? at hb
  split at hb
  · obtain ⟨p, hp, hb⟩ := Option.bind_eq_some_iff.1 hb
    obtain ⟨-, parent, hparent, hc⟩ := numbered.listed hnode hp
    have hlt := (List.getElem?_eq_some_iff.1 hc).1
    obtain ⟨sibling, hs, hsp, hpos⟩ := numbered.child hparent
      (List.getElem?_eq_getElem (show k < parent.children.length by omega))
    refine ⟨sibling, ⟨numbered.node?_id hs, hsp.trans hp.symm, by omega⟩, hpos, ?_⟩
    simp only [Workspace.arrival?, hsp, Option.bind_some, hb, hpos, ha]
  · cases hb

/-- A page that waits has an earlier sibling that has not arrived. -/
theorem exists_pending_of_work_eq_none (regular : build.Regular renderer fileName separator)
    {job : Job} {point : Waypoint}
    (hnode : build.site.tree.node? job.node.id = some job.node)
    (h : build.work job (build.movesFrom point) state = none) :
    ∃ sibling, build.site.tree.Precedes sibling job.node ∧
      state.workspace.arrival? sibling = some .pending := by
  obtain ⟨-, -, hw⟩ := (work_eq_none_iff regular.standard).1 h
  unfold Workspace.standing at hw
  split at hw
  · cases hw
  · rename_i barrier hb
    obtain ⟨k, hk, hpend⟩ := Barrier.standing_eq_waiting_iff.1 hw
    obtain ⟨sibling, hs, -, ha⟩ := exists_sibling_of_arrival regular.numbered hnode hb hk hpend
    exact ⟨sibling, hs, ha⟩

/-- A page that waits has an earlier sibling that is in the hand of a worker. -/
theorem exists_holds_of_work_eq_none (regular : build.Regular renderer fileName separator)
    (d : build.Dispatched state) {worker : Nat} {job : Job} {point : Waypoint}
    (ha : state.workers[worker]? = some (.working job (build.movesFrom point)))
    (h : build.work job (build.movesFrom point) state = none) :
    ∃ sibling, build.site.tree.Precedes sibling job.node ∧ state.Holds sibling := by
  obtain ⟨hnode, hlt⟩ := d.held ha rfl
  obtain ⟨sibling, hs, hpend⟩ := exists_pending_of_work_eq_none regular hnode h
  refine ⟨sibling, hs, Classical.byContradiction fun hh => ?_⟩
  have hlt' := lt_of_precedes regular.numbered hnode hs
  cases hp : sibling.parent with
  | none => simp [Workspace.arrival?, hp] at hpend
  | some p =>
    obtain ⟨arrival, h₁, h₂⟩ := d.arrived hs.1 hp (by omega) hh
    rw [hpend] at h₁; cases h₁; exact h₂ rfl

/-! ## Some worker has a step -/

/-- As long as a page is in hand, some worker has a step. -/
theorem exists_step_of_holds (regular : build.Regular renderer fileName separator)
    (d : build.Dispatched state) (onWay : build.OnWay state) :
    ∀ (id : Nat) {node : Node}, node.id = id → state.Holds node →
      ∃ worker state', build.step worker state = some state' := by
  -- A page that waits does so for a sibling in hand, and that one has a smaller number.
  intro id
  induction id using Nat.strongRecOn with
  | ind id ih =>
    intro node hid hh
    obtain ⟨worker, activity, ha, hn⟩ := holds_iff.1 hh
    cases hs : build.step worker state with
    | some state' => exact ⟨worker, state', hs⟩
    | none =>
      rcases (step_eq_none_iff ha).1 hs with ⟨crashed, rfl⟩ | ⟨job, moves, rfl, hw⟩
      · cases hn
      · obtain ⟨point, rfl⟩ := onWay _ _ (List.mem_of_getElem? ha)
        cases hn
        obtain ⟨sibling, hsib, hh'⟩ := exists_holds_of_work_eq_none regular d ha hw
        exact ih sibling.id (hid ▸ lt_of_precedes regular.numbered (d.held ha rfl).1 hsib) rfl hh'

/-- As long as a worker is not gone, some worker has a step. -/
theorem exists_step (regular : build.Regular renderer fileName separator)
    (d : build.Dispatched state) (onWay : build.OnWay state) {activity : Activity}
    (hm : activity ∈ state.workers) (hg : ¬ activity.IsGone) :
    ∃ worker state', build.step worker state = some state' := by
  obtain ⟨worker, ha⟩ := List.mem_iff_getElem?.1 hm
  cases hs : build.step worker state with
  | some state' => exact ⟨worker, state', hs⟩
  | none =>
    rcases (step_eq_none_iff ha).1 hs with h | ⟨job, moves, rfl, -⟩
    · exact absurd h hg
    · exact exists_step_of_holds regular d onWay _ rfl ⟨_, hm, rfl⟩

end Build

/-! ## Every build ends -/

/-- A bound on the steps that a worker takes before it looks for the next page, or goes. -/
def Activity.rank : Activity → Nat
  | working _ moves => moves.length + 9
  | ending .. | failing .. | falling .. => 8
  | keeping .. => 7
  | arriving .. => 6
  | counting | alarming => 5
  | reporting _ => 4
  | looking => 3
  | taking => 2
  | gone _ => 0

/-- The bounds of all workers together. -/
def Activity.ranks : List Activity → Nat
  | [] => 0
  | activity :: activities => activity.rank + ranks activities

/-- A bound on the steps that are left of a build. -/
def BuildState.rank (build : Build) (state : BuildState) : Nat :=
  (build.site.tree.size - state.cursor) * (build.moves.length + 9) +
    Activity.ranks state.workers + (!state.cancelled).toNat

theorem Activity.ranks_set {activities : List Activity} {worker : Nat} {a b : Activity}
    (h : activities[worker]? = some a) :
    ranks (activities.set worker b) + a.rank = ranks activities + b.rank := by
  induction activities generalizing worker with
  | nil => cases h
  | cons c activities ih =>
    cases worker with
    | zero =>
      obtain rfl : c = a := Option.some.inj h
      rw [List.set_cons_zero, ranks, ranks]; omega
    | succ worker =>
      have := @ih worker h
      rw [List.set_cons_succ, ranks, ranks]; omega

theorem Activity.ranks_replicate (count : Nat) (activity : Activity) :
    ranks (List.replicate count activity) = count * activity.rank := by
  induction count with
  | zero => simp [ranks]
  | succ count ih => rw [List.replicate_succ, ranks, ih, Nat.succ_mul]; omega

namespace Build
variable {build : Build} {renderer : Renderer} {fileName separator : String}
  {state : BuildState}

/-- A move shortens the way of a page. -/
theorem rank_lt_of_stride (standard : build.Standard renderer fileName separator)
    {point : Waypoint} {job : Job} {activity : Activity} {ws ws' : Workspace}
    (h : Stride build renderer fileName separator point job ws activity ws') :
    activity.rank < (Activity.working job (build.movesFrom point)).rank := by
  cases h <;> simp only [Activity.rank, length_movesFrom standard, Waypoint.index] <;> omega

/-- A turn takes a worker to its next page, and otherwise closer to its end. -/
theorem rank_lt_of_turn (standard : build.Standard renderer fileName separator)
    {shared : BuildState} {activity activity' : Activity}
    (h : Turn build renderer fileName separator state activity activity' shared) :
    (build.site.tree.size - shared.cursor) * (build.moves.length + 9) + activity'.rank <
      (build.site.tree.size - state.cursor) * (build.moves.length + 9) + activity.rank := by
  cases h with
  | take hn =>
    have hlt := ContentTree.lt_size_of_node? hn
    obtain ⟨left, hleft⟩ : ∃ left, build.site.tree.size - state.cursor = left + 1 :=
      ⟨build.site.tree.size - state.cursor - 1, by omega⟩
    rw [show build.site.tree.size - (state.cursor + 1) = left by omega, hleft, Nat.add_mul]
    simp only [Activity.rank, movesFrom_reading]; omega
  | miss hc =>
    rw [show build.site.tree.size - (state.cursor + 1) = 0 by omega,
      show build.site.tree.size - state.cursor = 0 by omega]
    simp only [Activity.rank]; omega
  | work hs => exact Nat.add_lt_add_left (rank_lt_of_stride standard hs) _
  | arrive | fall => simp only [Activity.rank, Build.arrive]; omega
  | _ => simp only [Activity.rank]; omega

theorem cancelled_of_turn {shared : BuildState} {activity activity' : Activity}
    (h : Turn build renderer fileName separator state activity activity' shared) :
    state.cancelled = true → shared.cancelled = true := by
  cases h with
  | report hc => exact hc
  | _ => exact id

theorem rank_start_le (build : Build) (numbered : build.site.tree.Numbered)
    (workspace : Workspace) (cancelled : Bool) :
    (build.start workspace cancelled).rank build ≤ build.stepBound + 1 := by
  have hranks : Activity.ranks (build.start workspace cancelled).workers = build.crew * 3 :=
    Activity.ranks_replicate ..
  rw [BuildState.rank, hranks, stepBound, total, numbered.length_preorder]
  have hc := Bool.toNat_le (!cancelled)
  simp only [start, Nat.sub_zero]; omega

/-- **Every build ends.** A history is no longer than its bound, and one cancellation. -/
theorem length_le_of_history (regular : build.Regular renderer fileName separator)
    {workspace : Workspace} {cancelled : Bool} {past : List BuildState}
    (h : build.History (build.start workspace cancelled) (state :: past)) :
    past.length + state.rank build ≤ build.stepBound + 1 := by
  refine History.turns (P := fun past s => past.length + s.rank build ≤ build.stepBound + 1)
    regular ?_ ?_ ?_ h
  · simpa using rank_start_le build regular.numbered workspace cancelled
  · intro past s worker a a' shared _ ih ha turn
    have hranks := Activity.ranks_set (b := a') ha
    have hturn := rank_lt_of_turn regular.standard turn
    have hc : (!shared.cancelled).toNat ≤ (!s.cancelled).toNat := by
      have := cancelled_of_turn turn
      cases hs : s.cancelled <;> cases ht : shared.cancelled <;> simp_all
    simp only [BuildState.rank, afterTurn, List.length_cons] at ih ⊢
    omega
  · intro past s _ ih hc
    simp only [BuildState.rank, Build.cancel, hc, List.length_cons, Bool.not_true, Bool.not_false,
      Bool.toNat_true, Bool.toNat_false] at ih ⊢
    omega

/-- Every history goes on until all workers are gone. -/
theorem exists_over_of_history (regular : build.Regular renderer fileName separator)
    {workspace : Workspace} {cancelled : Bool} {past : List BuildState}
    (h : build.History (build.start workspace cancelled) (state :: past)) :
    ∃ last later, build.History (build.start workspace cancelled) (last :: later) ∧
      state :: past <:+ last :: later ∧ last.IsOver := by
  -- The number of steps that are left goes down.
  induction hn : build.stepBound + 1 - past.length using Nat.strongRecOn generalizing past state with
  | ind n ih =>
    by_cases hover : state.IsOver
    · exact ⟨state, past, h, List.suffix_rfl, hover⟩
    · simp only [BuildState.IsOver, Classical.not_forall] at hover
      obtain ⟨activity, hm, hg⟩ := hover
      obtain ⟨worker, next, hstep⟩ := exists_step regular (dispatched_of_history regular h)
        (onWay_of_history regular h _ List.mem_cons_self) hm hg
      have h' := h.next (.step hstep)
      have hle := length_le_of_history regular h'
      rw [List.length_cons] at hle
      obtain ⟨last, later, hlast, hsuffix, hover⟩ := ih _ (by rw [List.length_cons]; omega) h' rfl
      exact ⟨last, later, hlast, (List.suffix_cons ..).trans hsuffix, hover⟩

/-! ## Loaded trees -/

/-- **No deadlock.** At every point of every build of a loaded tree, whatever pages have
    failed or crashed and whether or not it was cancelled:

    * as long as a worker is not gone, some worker has a step;
    * the earlier siblings of a page that is about to wait were all taken;
    * a page that was taken has arrived, or a worker has it in hand;
    * that worker has a step, or the page waits for an earlier sibling, which comes
      before it in the walk through the tree, was taken and is in hand itself;
    * the build goes on for a bounded number of steps only. -/
theorem no_deadlock {reader : Yaml.Reader} {files : FileSystem} {format : ContentFormat}
    {root : Path} (loaded : ContentTree.load reader files format root = .ok build.site.tree)
    (standard : build.Standard renderer fileName separator) {workspace : Workspace}
    {cancelled : Bool} {past : List BuildState}
    (history : build.History (build.start workspace cancelled) (state :: past)) :
    ((∃ activity ∈ state.workers, ¬ activity.IsGone) →
      ∃ worker state', build.step worker state = some state') ∧
    (∀ job, .working job (build.movesFrom .awaiting) ∈ state.workers →
      ∀ sibling, build.site.tree.Precedes sibling job.node → state.Taken build sibling) ∧
    (∀ node, build.site.tree.node? node.id = some node → state.Taken build node →
      state.Arrived node ∨ state.Holds node) ∧
    (∀ (worker : Nat) (activity : Activity) (node : Node),
      state.workers[worker]? = some activity → activity.node? = some node →
        (∃ state', build.step worker state = some state') ∨
          ∃ sibling, build.site.tree.Precedes sibling node ∧ sibling.id < node.id ∧
            state.Taken build sibling ∧ state.Holds sibling) ∧
    past.length ≤ build.stepBound + 1 := by
  have regular := regular_of_load loaded standard
  have d := dispatched_of_history regular history
  have onWay := onWay_of_history regular history state List.mem_cons_self
  have earlier {worker : Nat} {activity : Activity} {node sibling : Node}
      (ha : state.workers[worker]? = some activity) (hn : activity.node? = some node)
      (hs : build.site.tree.Precedes sibling node) :
      sibling.id < node.id ∧ state.Taken build sibling := by
    obtain ⟨hnode, hlt⟩ := d.held ha hn
    have := lt_of_precedes regular.numbered hnode hs
    exact ⟨this, (taken_iff regular.numbered hs.1).2 (by omega)⟩
  refine ⟨fun ⟨activity, hm, hg⟩ => exists_step regular d onWay hm hg, fun job hm sibling hs => ?_,
    fun node hnode htaken => ?_, fun worker activity node ha hn => ?_, ?_⟩
  · obtain ⟨worker, ha⟩ := List.mem_iff_getElem?.1 hm
    exact (earlier ha rfl hs).2
  · refine Classical.or_iff_not_imp_right.2 fun hh p hp => ?_
    exact d.arrived hnode hp ((taken_iff regular.numbered hnode).1 htaken) hh
  · cases hs : build.step worker state with
    | some state' => exact Or.inl ⟨state', rfl⟩
    | none =>
      rcases (step_eq_none_iff ha).1 hs with ⟨crashed, rfl⟩ | ⟨job, moves, rfl, hw⟩
      · cases hn
      · obtain ⟨point, rfl⟩ := onWay _ _ (List.mem_of_getElem? ha)
        cases hn
        obtain ⟨sibling, hsib, hh⟩ := exists_holds_of_work_eq_none regular d ha hw
        exact Or.inr ⟨sibling, hsib, (earlier ha rfl hsib).1, (earlier ha rfl hsib).2, hh⟩
  · have := length_le_of_history regular history
    omega

end Build

/-! ## A small course -/

namespace Sample

/-- A page with two pages below it that go into one file. -/
def files : FileSystem where
  entries :=
    [(["course"], .directory),
      (["course", "manifest.yaml"], .file "[default, one, two]".toUTF8),
      (["course", "default.md"], .file "---\naggregate: true\n---\nHome".toUTF8),
      (["course", "one.md"], .file "One".toUTF8),
      (["course", "two.md"], .file "Two".toUTF8)]
  current := []

/-- The tree of the course. -/
def tree : ContentTree :=
  match ContentTree.load Yaml.reader files {} ⟨"/course"⟩ with
  | .ok tree => tree
  | .error _ => ⟨[], ⟨""⟩⟩

/-- A build of the course by two workers. -/
def build : Build where
  site := ⟨tree, .empty, .null, ⟨"/site"⟩⟩
  pipeline := .standard .plain "all.html" "|"
  workers := 2
  reports := true
  cancelsAt _ _ := false

theorem loaded : ContentTree.load Yaml.reader files {} ⟨"/course"⟩ = .ok build.site.tree := by
  have hok : (ContentTree.load Yaml.reader files {} ⟨"/course"⟩).isOk = true := by decide +kernel
  obtain ⟨loaded, h⟩ := Attempt.exists_eq_ok hok
  rw [build, tree, h]

theorem standard : build.Standard .plain "all.html" "|" := rfl

/-- The workspace before the course was ever built. -/
def workspace : Workspace := .ofTree tree files .empty

/-- The first worker has just read the page `one`, and the second waits with `two`. -/
def waiting : BuildState :=
  build.follow (List.replicate 20 0 ++ List.replicate 6 1) (build.start workspace false)

end Sample

open Sample in
/-- The second worker has to wait, and the build still goes on. -/
theorem no_deadlock_waiting :
    build.step 1 waiting = none ∧
      ∃ worker state', build.step worker waiting = some state' := by
  obtain ⟨past, history⟩ : ∃ past, build.History (build.start workspace false) (waiting :: past) :=
    Build.exists_history_follow .start
  have hnone : (build.step 1 waiting).isNone = true := by decide +kernel
  have hany : (waiting.workers.any fun activity => activity.node?.isSome) = true := by
    decide +kernel
  refine ⟨Option.isNone_iff_eq_none.1 hnone, (Build.no_deadlock loaded standard history).1 ?_⟩
  obtain ⟨activity, hm, hn⟩ := List.any_eq_true.1 hany
  refine ⟨activity, hm, ?_⟩
  rintro ⟨crashed, rfl⟩
  cases hn

end CourseSite
