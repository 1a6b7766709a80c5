/-
  Which error a build comes to.

  * `Fails`, `Crashes`, `Raises`: what has become of a page in a history, and which
    stage the error comes from.
  * `Build.Accounted`: whatever failed by a sibling's fault comes after a failure of
    its own or a crash, the first error that is kept is none of those, and no failure
    is lost.
  * `accounted_of_history`: this holds at every point of every history.
  * `outcome_of_history`: hence a build comes to a crash, to an error that its page
    made itself, or to no error at all.
-/
import CourseSite.Proofs.Site.Progress

namespace CourseSite

/-! ## What became of a page -/

/-- A page came to its end with an error. -/
def Fails (states : List BuildState) (node : Node) (error : PageError) : Prop :=
  ∃ state ∈ states, .failing node error ∈ state.workers

/-- A page crashed. -/
def Crashes (states : List BuildState) (node : Node) : Prop :=
  ∃ state ∈ states, .falling node ∈ state.workers

/-- The next move of a page, in one of the stages, was to end with an error. -/
def Build.Raises (build : Build) (states : List BuildState) (node : Node) (stages : List String)
    (error : PageError) : Prop :=
  ∃ state ∈ states, ∃ job stage move moves workspace,
    .working job ((stage, move) :: moves) ∈ state.workers ∧ job.node = node ∧ stage ∈ stages ∧
      move build.site job state.workspace = .fail error workspace

/-- The stages in which a page fails by itself: it is read, expanded, rendered or
    written. -/
def ownStages : List String := ["", "expand-directives", "render", "write"]

/-- The page failed by itself. -/
structure Build.FailsAlone (build : Build) (states : List BuildState) (node : Node)
    (error : PageError) : Prop where
  fails : Fails states node error
  raises : build.Raises states node ownStages error
  ne_siblingFailed : error ≠ .siblingFailed

theorem Fails.later {states : List BuildState} {node : Node} {error : PageError}
    (h : Fails states node error) (state : BuildState) : Fails (state :: states) node error := by
  obtain ⟨s, hs, hm⟩ := h; exact ⟨s, List.mem_cons_of_mem _ hs, hm⟩

theorem Crashes.later {states : List BuildState} {node : Node} (h : Crashes states node)
    (state : BuildState) : Crashes (state :: states) node := by
  obtain ⟨s, hs, hm⟩ := h; exact ⟨s, List.mem_cons_of_mem _ hs, hm⟩

theorem Build.FailsAlone.later {build : Build} {states : List BuildState} {node : Node}
    {error : PageError} (h : build.FailsAlone states node error) (state : BuildState) :
    build.FailsAlone (state :: states) node error := by
  obtain ⟨s, hs, rest⟩ := h.raises
  exact ⟨h.fails.later state, ⟨s, List.mem_cons_of_mem _ hs, rest⟩, h.ne_siblingFailed⟩

/-! ## Crashes -/

/-- The worker has crashed. -/
def Activity.HasCrashed : Activity → Prop
  | falling _ | alarming | gone true => True
  | _ => False

/-- A worker has crashed. -/
def BuildState.Crashed (state : BuildState) : Prop := ∃ activity ∈ state.workers, activity.HasCrashed

/-- There is a reason for a page to find that a sibling failed. -/
def BuildState.Alarmed (state : BuildState) : Prop := state.failed = true ∨ state.Crashed

/-- There is a reason for taking no further page: an error that is kept, one about to
    be kept, or a crash. -/
def BuildState.HasCause (state : BuildState) : Prop :=
  state.firstError.isSome = true ∨
    (∃ activity ∈ state.workers, ∃ node error, activity = .keeping node error) ∨ state.Crashed

namespace Build
variable {build : Build} {renderer : Renderer} {fileName separator : String}

section
variable {state shared : BuildState} {worker : Nat} {activity activity' : Activity}

/-- The build never takes back that no further page is to be taken. -/
theorem failed_of_turn (h : Turn build renderer fileName separator state activity activity' shared)
    (hf : state.failed = true) : (afterTurn state shared worker activity').failed = true := by
  cases h with
  | failFirst | alarm => rfl
  | _ => exact hf

theorem hasCrashed_of_turn
    (h : Turn build renderer fileName separator state activity activity' shared)
    (hc : activity.HasCrashed) : activity'.HasCrashed := by
  cases h with
  | fall | alarm => trivial
  | _ => exact hc.elim

theorem crashed_afterTurn
    (h : Turn build renderer fileName separator state activity activity' shared)
    (ha : state.workers[worker]? = some activity) (hc : state.Crashed) :
    (afterTurn state shared worker activity').Crashed := by
  rcases exists_mem_afterTurn ha hc with hc | hc
  · exact ⟨_, mem_afterTurn_self ha, hasCrashed_of_turn h hc⟩
  · exact hc

theorem alarmed_afterTurn
    (h : Turn build renderer fileName separator state activity activity' shared)
    (ha : state.workers[worker]? = some activity) (hl : state.Alarmed) :
    (afterTurn state shared worker activity').Alarmed := by
  rcases hl with hf | hc
  · exact Or.inl (failed_of_turn h hf)
  · exact Or.inr (crashed_afterTurn h ha hc)

/-- A worker that has crashed after a turn had crashed before, or its page just did. -/
theorem crashed_of_afterTurn
    (h : Turn build renderer fileName separator state activity activity' shared)
    (ha : state.workers[worker]? = some activity)
    (hc : (afterTurn state shared worker activity').Crashed) :
    state.Crashed ∨ ∃ node, activity' = .falling node := by
  obtain ⟨b, hb, hbc⟩ := hc
  rcases mem_afterTurn hb with hb | rfl
  · exact Or.inl ⟨b, hb, hbc⟩
  · have hm := List.mem_of_getElem? ha
    cases h with
    | fall | alarm => exact Or.inl ⟨_, hm, trivial⟩
    | work hs =>
      cases hs with
      | expansionCrash | renderCrash => exact Or.inr ⟨_, rfl⟩
      | _ => exact hbc.elim
    | _ => exact hbc.elim

end

/-! ## Errors -/

/-- A page that fails by the fault of a sibling finds that one failed; any other error
    comes from its own move. -/
theorem raises_of_stride (standard : build.Standard renderer fileName separator)
    {point : Waypoint} {job : Job} {node : Node} {error : PageError} {ws ws' : Workspace}
    (h : Stride build renderer fileName separator point job ws (.failing node error) ws') :
    (error = .siblingFailed ∧ ws.standing job = .failed) ∨
      (error ≠ .siblingFailed ∧ job.node = node ∧ ∃ stage move moves,
        build.movesFrom point = (stage, move) :: moves ∧ stage ∈ ownStages ∧
          move build.site job ws = .fail error ws') := by
  cases h with
  | follow _ hs => exact Or.inl ⟨rfl, hs⟩
  | unread hr =>
    exact Or.inr ⟨by simp, rfl, _, _, _, movesFrom_eq standard _, by simp [ownStages],
      by simp only [Move.readBody, hr]⟩
  | unexpanded hr =>
    exact Or.inr ⟨by simp, rfl, _, _, _, movesFrom_eq standard _, by simp [ownStages],
      by simp only [Stage.replaceCalls, hr]⟩
  | unrendered hr =>
    exact Or.inr ⟨by simp, rfl, _, _, _, movesFrom_eq standard _, by simp [ownStages],
      by simp only [Stage.renderText, hr]⟩
  | unprepared hd hc =>
    exact Or.inr ⟨by simp, rfl, _, _, _, movesFrom_eq standard _, by simp [ownStages],
      by delta Stage.makeDirectory; simp only [hd, hc]⟩
  | unwritten hw =>
    exact Or.inr ⟨by simp, rfl, _, _, _, movesFrom_eq standard _, by simp [ownStages],
      by delta Stage.writeFile; simp only [hw]⟩

/-- A page finds that a sibling failed only if one arrived so. -/
theorem exists_arrival_of_standing (numbered : build.site.tree.Numbered) {job : Job}
    {workspace : Workspace} (hnode : build.site.tree.node? job.node.id = some job.node)
    (h : workspace.standing job = .failed) :
    ∃ sibling, build.site.tree.Precedes sibling job.node ∧
      workspace.arrival? sibling = some .failed := by
  unfold Workspace.standing at h
  split at h
  · cases h
  · rename_i barrier hb
    obtain ⟨-, k, hk, hfail⟩ := Barrier.standing_eq_failed_iff.1 h
    obtain ⟨sibling, hs, -, ha⟩ := exists_sibling_of_arrival numbered hnode hb hk hfail
    exact ⟨sibling, hs, ha⟩

/-! ## The invariant -/

/-- The failures and crashes that a history has seen are accounted for. -/
structure Accounted (build : Build) (past : List BuildState) (state : BuildState) : Prop where
  failing : ∀ {node : Node} {error : PageError}, .failing node error ∈ state.workers →
    (error = .siblingFailed ∧ state.Alarmed) ∨ build.FailsAlone (state :: past) node error
  keeping : ∀ {node : Node} {error : PageError}, .keeping node error ∈ state.workers →
    state.failed = true ∧ (state.Crashed ∨ build.FailsAlone (state :: past) node error)
  arriving : ∀ {node : Node}, .arriving node false ∈ state.workers → state.failed = true
  arrived : ∀ {node : Node}, state.workspace.arrival? node = some .failed → state.Alarmed
  first : ∀ {node : Node} {error : PageError}, state.firstError = some (node, error) →
    state.Crashed ∨ build.FailsAlone (state :: past) node error
  cause : state.failed = true → state.HasCause
  lost : ∀ {node : Node} {error : PageError}, Fails (state :: past) node error →
    state.failed = true ∨ ∃ activity ∈ state.workers, ∃ node error, activity = .failing node error
  crashed : (∃ node, Crashes (state :: past) node) ↔ state.Crashed

theorem accounted_start (build : Build) (workspace : Workspace) (cancelled : Bool) :
    build.Accounted [] (build.start workspace cancelled) := by
  refine ⟨fun h => ?_, fun h => ?_, fun h => ?_, fun {node} h => ?_, nofun, nofun, ?_, ?_⟩
  · cases eq_looking_of_mem_start h
  · cases eq_looking_of_mem_start h
  · cases eq_looking_of_mem_start h
  · cases eq_pending_of_start h
  · rintro node error ⟨s, hs, hm⟩
    cases List.mem_singleton.1 hs; cases eq_looking_of_mem_start hm
  · constructor
    · rintro ⟨node, s, hs, hm⟩
      cases List.mem_singleton.1 hs; cases eq_looking_of_mem_start hm
    · rintro ⟨activity, hm, hc⟩
      cases eq_looking_of_mem_start hm; exact hc.elim

/-- The arrivals of a workspace after a turn. -/
theorem arrived_of_turn {past : List BuildState} {state shared : BuildState} {worker : Nat}
    {activity activity' : Activity} (known : build.Accounted past state)
    (ha : state.workers[worker]? = some activity)
    (turn : Turn build renderer fileName separator state activity activity' shared) {node : Node}
    (h : shared.workspace.arrival? node = some .failed) :
    state.Alarmed ∨ activity'.HasCrashed := by
  have hm := List.mem_of_getElem? ha
  cases turn with
  | arrive =>
    rename_i left success
    rw [Build.arrive, Workspace.arrival?_arrive] at h
    split at h
    · cases success with
      | true => obtain ⟨_, -, h⟩ := Option.map_eq_some_iff.1 h; cases h
      | false => exact Or.inl (Or.inl (known.arriving hm))
    · exact Or.inl (known.arrived h)
  | fall => exact Or.inr trivial
  | work hs => exact Or.inl (known.arrived (hs.arrival?_eq node ▸ h))
  | _ => exact Or.inl (known.arrived h)

section
variable {past : List BuildState} {state shared : BuildState} {worker : Nat}
  {activity activity' : Activity}

/-- Where the failure of a page comes from. -/
theorem failing_of_turn (regular : build.Regular renderer fileName separator)
    (d : build.Dispatched state) (known : build.Accounted past state)
    (ha : state.workers[worker]? = some activity) {node : Node} {error : PageError}
    (turn : Turn build renderer fileName separator state activity (.failing node error) shared) :
    (error = .siblingFailed ∧ state.Alarmed) ∨
      build.FailsAlone (afterTurn state shared worker (.failing node error) :: state :: past)
        node error := by
  cases turn with
  | work hs =>
    rcases raises_of_stride regular.standard hs with
      ⟨rfl, hw⟩ | ⟨hne, hn, stage, move, moves, hmoves, hstage, hmove⟩
    · obtain ⟨sibling, -, harr⟩ := exists_arrival_of_standing regular.numbered (d.held ha rfl).1 hw
      exact Or.inl ⟨rfl, known.arrived harr⟩
    · refine Or.inr ⟨⟨_, List.mem_cons_self, mem_afterTurn_self ha⟩, ?_, hne⟩
      refine ⟨state, List.mem_cons_of_mem _ List.mem_cons_self, _, stage, move, moves, _, ?_, hn,
        hstage, hmove⟩
      exact hmoves ▸ List.mem_of_getElem? ha

/-- The error that a worker is about to keep is no follow-up failure, but for a crash. -/
theorem keeping_of_turn (known : build.Accounted past state) (hm : activity ∈ state.workers)
    {node : Node} {error : PageError}
    (turn : Turn build renderer fileName separator state activity (.keeping node error) shared) :
    (afterTurn state shared worker (.keeping node error)).failed = true ∧
      (state.Crashed ∨ build.FailsAlone (state :: past) node error) := by
  cases turn with
  | work hs => cases hs
  | failFirst hf =>
    refine ⟨rfl, ?_⟩
    rcases known.failing hm with ⟨-, hl | hc⟩ | halone
    · rw [hf] at hl; cases hl
    · exact Or.inl hc
    · exact Or.inr halone

theorem arriving_of_turn (known : build.Accounted past state) (hm : activity ∈ state.workers)
    {node : Node}
    (turn : Turn build renderer fileName separator state activity (.arriving node false) shared) :
    (afterTurn state shared worker (.arriving node false)).failed = true := by
  cases turn with
  | work hs => cases hs
  | failLate hf => exact hf
  | keep => exact (known.keeping hm).1

theorem first_of_turn (known : build.Accounted past state) (hm : activity ∈ state.workers)
    (turn : Turn build renderer fileName separator state activity activity' shared)
    {node : Node} {error : PageError} (h : shared.firstError = some (node, error)) :
    state.Crashed ∨ build.FailsAlone (state :: past) node error := by
  cases turn with
  | keep => cases h; exact (known.keeping hm).2
  | _ => exact known.first h

/-- That no further page is taken has its cause. -/
theorem cause_of_turn (known : build.Accounted past state)
    (ha : state.workers[worker]? = some activity)
    (turn : Turn build renderer fileName separator state activity activity' shared)
    (h : (afterTurn state shared worker activity').failed = true) :
    (afterTurn state shared worker activity').HasCause := by
  have hself : activity' ∈ (afterTurn state shared worker activity').workers :=
    mem_afterTurn_self ha
  have before (hf : state.failed = true) (hfirst : shared.firstError = state.firstError)
      (hk : ∀ node error, activity ≠ .keeping node error) :
      (afterTurn state shared worker activity').HasCause := by
    rcases known.cause hf with hsome | hkeep | hc
    · exact Or.inl (hfirst ▸ hsome)
    · rcases exists_mem_afterTurn ha hkeep with ⟨node, error, he⟩ | hkeep
      · exact absurd he (hk node error)
      · exact Or.inr (Or.inl hkeep)
    · exact Or.inr (Or.inr (crashed_afterTurn turn ha hc))
  cases turn with
  | failFirst => exact Or.inr (Or.inl ⟨_, hself, _, _, rfl⟩)
  | keep => exact Or.inl rfl
  | alarm => exact Or.inr (Or.inr ⟨_, hself, trivial⟩)
  | _ => exact before h rfl (by simp)

/-- No failure is lost: it keeps further pages from being taken, or a worker still has
    it in hand. -/
theorem lost_of_turn (known : build.Accounted past state)
    (ha : state.workers[worker]? = some activity)
    (turn : Turn build renderer fileName separator state activity activity' shared)
    {node : Node} {error : PageError}
    (h : Fails (afterTurn state shared worker activity' :: state :: past) node error) :
    (afterTurn state shared worker activity').failed = true ∨
      ∃ b ∈ (afterTurn state shared worker activity').workers,
        ∃ node error, b = .failing node error := by
  obtain ⟨s, hs, hm⟩ := h
  rcases List.mem_cons.1 hs with rfl | hs
  · exact Or.inr ⟨_, hm, _, _, rfl⟩
  rcases known.lost ⟨s, hs, hm⟩ with hf | hfail
  · exact Or.inl (failed_of_turn turn hf)
  rcases exists_mem_afterTurn ha hfail with ⟨n, e, rfl⟩ | hfail
  · cases turn with
    | failLate hf => exact Or.inl hf
    | failFirst => exact Or.inl rfl
  · exact Or.inr hfail

theorem crashed_iff_of_turn (known : build.Accounted past state)
    (ha : state.workers[worker]? = some activity)
    (turn : Turn build renderer fileName separator state activity activity' shared) :
    (∃ node, Crashes (afterTurn state shared worker activity' :: state :: past) node) ↔
      (afterTurn state shared worker activity').Crashed := by
  constructor
  · rintro ⟨node, s, hs, hm⟩
    rcases List.mem_cons.1 hs with rfl | hs
    · exact ⟨_, hm, trivial⟩
    · exact crashed_afterTurn turn ha (known.crashed.1 ⟨node, s, hs, hm⟩)
  · intro hc
    rcases crashed_of_afterTurn turn ha hc with hc | ⟨node, rfl⟩
    · obtain ⟨node, hcrash⟩ := known.crashed.2 hc
      exact ⟨node, hcrash.later _⟩
    · exact ⟨node, _, List.mem_cons_self, mem_afterTurn_self ha⟩

theorem Accounted.turn (regular : build.Regular renderer fileName separator)
    (d : build.Dispatched state) (known : build.Accounted past state)
    (ha : state.workers[worker]? = some activity)
    (turn : Turn build renderer fileName separator state activity activity' shared) :
    build.Accounted (state :: past) (afterTurn state shared worker activity') := by
  have hm := List.mem_of_getElem? ha
  have alarmed := alarmed_afterTurn turn ha
  have crashed := crashed_afterTurn turn ha
  refine ⟨fun h => ?_, fun h => ?_, fun h => ?_, fun h => ?_, fun h => ?_,
    cause_of_turn known ha turn, lost_of_turn known ha turn, crashed_iff_of_turn known ha turn⟩
  · rcases mem_afterTurn h with h | rfl
    · exact (known.failing h).imp (fun ⟨he, hl⟩ => ⟨he, alarmed hl⟩) (·.later _)
    · exact (failing_of_turn regular d known ha turn).imp (fun ⟨he, hl⟩ => ⟨he, alarmed hl⟩) id
  · rcases mem_afterTurn h with h | rfl
    · obtain ⟨hf, hor⟩ := known.keeping h
      exact ⟨failed_of_turn turn hf, hor.imp crashed (·.later _)⟩
    · obtain ⟨hf, hor⟩ := keeping_of_turn known hm turn
      exact ⟨hf, hor.imp crashed (·.later _)⟩
  · rcases mem_afterTurn h with h | rfl
    · exact failed_of_turn turn (known.arriving h)
    · exact arriving_of_turn known hm turn
  · rcases arrived_of_turn known ha turn h with hl | hc
    · exact alarmed hl
    · exact Or.inr ⟨_, mem_afterTurn_self ha, hc⟩
  · exact (first_of_turn known hm turn h).imp crashed (·.later _)

end

/-- **Accounting.** At every point of a history its failures and crashes are accounted for. -/
theorem accounted_of_history (regular : build.Regular renderer fileName separator)
    {workspace : Workspace} {cancelled : Bool} {past : List BuildState} {state : BuildState}
    (h : build.History (build.start workspace cancelled) (state :: past)) :
    build.Accounted past state := by
  refine History.turns (P := build.Accounted) regular (accounted_start build workspace cancelled)
    ?_ ?_ h
  · intro past s worker a a' shared history known ha turn
    exact known.turn regular (dispatched_of_history regular history) ha turn
  · intro past s _ known _
    refine ⟨fun h => (known.failing h).imp id (·.later _),
      fun h => (known.keeping h).imp id (·.imp id (·.later _)), known.arriving, known.arrived,
      fun h => (known.first h).imp id (·.later _), known.cause, ?_, ?_⟩
    · rintro node error ⟨t, ht, hm⟩
      rcases List.mem_cons.1 ht with rfl | ht
      · exact Or.inr ⟨_, hm, _, _, rfl⟩
      · exact known.lost ⟨t, ht, hm⟩
    · refine ⟨?_, fun hc => ?_⟩
      · rintro ⟨node, t, ht, hm⟩
        rcases List.mem_cons.1 ht with rfl | ht
        · exact ⟨_, hm, trivial⟩
        · exact known.crashed.1 ⟨node, t, ht, hm⟩
      · obtain ⟨node, hcrash⟩ := known.crashed.2 hc
        exact ⟨node, hcrash.later _⟩

/-! ## Outcomes -/

theorem any_isCrash_iff {state : BuildState} (ended : state.IsOver) :
    state.workers.any Activity.isCrash = true ↔ state.Crashed := by
  rw [List.any_eq_true]
  constructor
  · rintro ⟨activity, hm, hc⟩
    obtain ⟨crashed, rfl⟩ := ended activity hm
    cases crashed with
    | true => exact ⟨_, hm, trivial⟩
    | false => cases hc
  · rintro ⟨activity, hm, hc⟩
    obtain ⟨crashed, rfl⟩ := ended activity hm
    cases crashed with
    | true => exact ⟨_, hm, rfl⟩
    | false => exact hc.elim

theorem outcome_eq_worker_iff {state : BuildState} :
    build.outcome state = .error .worker ↔ state.workers.any Activity.isCrash = true := by
  unfold outcome
  constructor
  · intro h
    split at h
    · assumption
    split at h
    · cases h
    · dsimp only at h; split at h <;> cases h
  · intro h; rw [if_pos h]

/-- Without a failure and a crash there is no error to keep, and no reason to stop. -/
theorem calm_of_succeeds {past : List BuildState} {state : BuildState}
    (known : build.Accounted past state) (ended : state.IsOver)
    (hnf : ¬ ∃ node error, Fails (state :: past) node error)
    (hnc : ¬ ∃ node, Crashes (state :: past) node) :
    state.firstError = none ∧ ¬ state.Alarmed := by
  have hfirst : state.firstError = none := by
    cases hfirst : state.firstError with
    | none => rfl
    | some first =>
      rcases known.first hfirst with hc | halone
      · exact absurd (known.crashed.2 hc) hnc
      · exact absurd ⟨_, _, halone.fails⟩ hnf
  refine ⟨hfirst, ?_⟩
  rintro (hf | hc)
  · rcases known.cause hf with hsome | ⟨_, hm, _, _, rfl⟩ | hc
    · rw [hfirst] at hsome; cases hsome
    · obtain ⟨_, hg⟩ := ended _ hm; cases hg
    · exact hnc (known.crashed.2 hc)
  · exact hnc (known.crashed.2 hc)

/-- **Which error a build comes to.** Every history of the build of a loaded tree goes on
    to an end, and at the end, whatever the order of the steps was:

    * the build comes to a crash exactly if a page crashed;
    * otherwise, if a page failed, the build comes to the error of a page that failed by
      itself: it was being read, expanded, rendered or written;
    * otherwise it comes to no error. -/
theorem outcome_of_history {reader : Yaml.Reader} {files : FileSystem} {format : ContentFormat}
    {root : Path} (loaded : ContentTree.load reader files format root = .ok build.site.tree)
    (standard : build.Standard renderer fileName separator) {workspace : Workspace}
    {cancelled : Bool} {past : List BuildState} {state : BuildState}
    (history : build.History (build.start workspace cancelled) (state :: past)) :
    (∃ last later, build.History (build.start workspace cancelled) (last :: later) ∧
      state :: past <:+ last :: later ∧ last.IsOver) ∧
    (state.IsOver →
      (build.outcome state = .error .worker ↔ ∃ node, Crashes (state :: past) node) ∧
      ((¬ ∃ node, Crashes (state :: past) node) → (∃ node error, Fails (state :: past) node error) →
        ∃ node error, build.outcome state = .error (.page node.page.url error) ∧
          build.site.tree.node? node.id = some node ∧
          build.FailsAlone (state :: past) node error) ∧
      ((¬ ∃ node, Crashes (state :: past) node) → (¬ ∃ node error, Fails (state :: past) node error) →
        ∃ outcome, build.outcome state = .ok outcome)) := by
  have regular := regular_of_load loaded standard
  refine ⟨exists_over_of_history regular history, fun ended => ?_⟩
  have known := accounted_of_history regular history
  have hcrash := known.crashed.trans (any_isCrash_iff ended).symm
  refine ⟨outcome_eq_worker_iff.trans hcrash.symm, fun hnc => ?_, fun hnc hnf => ?_⟩
  · rintro ⟨node, error, hfails⟩
    have none {activity : Activity} (hm : activity ∈ state.workers) (hg : ¬ activity.IsGone) : False :=
      hg (ended activity hm)
    have hfailed : state.failed = true := by
      rcases known.lost hfails with hf | ⟨_, hm, _, _, rfl⟩
      · exact hf
      · exact (none hm nofun).elim
    obtain ⟨⟨node, error⟩, hfirst⟩ : ∃ first, state.firstError = some first := by
      rcases known.cause hfailed with hsome | ⟨_, hm, _, _, rfl⟩ | hc
      · exact Option.isSome_iff_exists.1 hsome
      · exact (none hm nofun).elim
      · exact absurd (known.crashed.2 hc) hnc
    have halone := (known.first hfirst).resolve_left fun hc => hnc (known.crashed.2 hc)
    refine ⟨node, error, ?_, ?_, halone⟩
    · rw [outcome, if_neg (fun h => hnc (hcrash.2 h)), hfirst]
    · obtain ⟨s, hs, hm⟩ := halone.fails
      obtain ⟨_, hpast, -⟩ := history.exists_past hs
      obtain ⟨_, ha⟩ := List.mem_iff_getElem?.1 hm
      exact ((dispatched_of_history regular hpast).held ha rfl).1
  · rw [outcome, if_neg (fun h => hnc (hcrash.2 h)), (calm_of_succeeds known ended hnf hnc).1]
    dsimp only
    split <;> exact ⟨_, rfl⟩

end Build

/-! ## A page that fails -/

namespace Sample

/-- The worker is gone, and not with a crash. -/
def isHome : Activity → Bool
  | .gone false => true
  | _ => false

theorem eq_gone_of_all {workers : List Activity} (h : workers.all isHome = true)
    {activity : Activity} (hm : activity ∈ workers) : activity = .gone false := by
  have := List.all_eq_true.1 h activity hm
  unfold isHome at this
  split at this
  · rfl
  · cases this

/-- The document of the page `one` is gone. -/
def failing : Workspace := { workspace with files := files.remove ["course", "one.md"] }

/-- The page `two` has to wait until `one` has failed. -/
def failed : BuildState :=
  build.follow (List.replicate 20 0 ++ List.replicate 6 1 ++ List.replicate 6 0 ++
    List.replicate 6 1) (build.start failing false)

end Sample

open Sample in
/-- The error is the one of the page `one`, although the page `two` failed as well. -/
theorem outcome_of_history_failed :
    ∃ (node : Node) (error : PageError),
      build.outcome failed = .error (.page node.page.url error) ∧ error ≠ .siblingFailed := by
  obtain ⟨past, history⟩ : ∃ past, build.History (build.start failing false) (failed :: past) :=
    Build.exists_history_follow .start
  have hgone : failed.workers.all isHome = true := by decide +kernel
  have hpage : (match build.outcome failed with
      | .error (.page ..) => true | _ => false) = true := by decide +kernel
  have ended : failed.IsOver := fun _ hm => ⟨false, eq_gone_of_all hgone hm⟩
  obtain ⟨hworker, hfails, hok⟩ := (Build.outcome_of_history loaded standard history).2 ended
  have hnc : ¬ ∃ node, Crashes (failed :: past) node := by
    intro hc; rw [hworker.2 hc] at hpage; cases hpage
  by_cases hf : ∃ node error, Fails (failed :: past) node error
  · obtain ⟨node, error, hout, -, halone⟩ := hfails hnc hf
    exact ⟨node, error, hout, halone.ne_siblingFailed⟩
  · obtain ⟨outcome, hout⟩ := hok hnc hf
    rw [hout] at hpage; cases hpage

end CourseSite
