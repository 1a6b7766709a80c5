/-
  All that one step of a worker can do in a build with the standard pipeline.

  * `Turn`: from the activity of a worker to its next one, with what the workers share
    after it.
  * `Build.Regular`: the build of a numbered tree with the standard pipeline; every
    build of a loaded tree with the standard pipeline is one (`regular_of_load`).
  * `Activity.HasPassed`: a page has some moves behind it; `hasPassed_of_turn`: it had
    them behind it before the turn, or the turn is the move that matters.
  * `OnWay`: the pages at work stand at points of the pipeline.
  * `History.turns`: an invariant that every turn and a cancellation keep holds in
    all states of a history.
-/
import CourseSite.Proofs.Content.Numbering
import CourseSite.Proofs.Site.History
import CourseSite.Proofs.Site.Way

namespace CourseSite

/-- What a step can do: from the activity before it to the activity and the shared
    state after it. -/
inductive Turn (build : Build) (renderer : Renderer) (fileName separator : String)
    (state : BuildState) : Activity → Activity → BuildState → Prop
  | leave : state.failed = true ∨ state.cancelled = true →
      Turn build renderer fileName separator state .looking (.gone false) state
  | look : state.failed = false → state.cancelled = false →
      Turn build renderer fileName separator state .looking .taking state
  | miss : build.site.tree.size ≤ state.cursor →
      Turn build renderer fileName separator state .taking (.gone false)
        { state with cursor := state.cursor + 1 }
  | take {node} : build.site.tree.node? state.cursor = some node →
      Turn build renderer fileName separator state .taking
        (.working (Job.start build.site node node.parent.isSome "") (build.movesFrom .reading))
        { state with
          cursor := state.cursor + 1
          workspace := state.workspace.note node none }
  | work {point job activity ws} :
      Stride build renderer fileName separator point job state.workspace activity ws →
      Turn build renderer fileName separator state (.working job (build.movesFrom point)) activity
        { state with workspace := ws }
  | finish {node stopped} :
      Turn build renderer fileName separator state (.ending node stopped) (.arriving node true)
        { state with stopped := state.stopped + stopped.toNat }
  | failLate {node error} : state.failed = true →
      Turn build renderer fileName separator state (.failing node error) (.arriving node false) state
  | failFirst {node error} : state.failed = false →
      Turn build renderer fileName separator state (.failing node error) (.keeping node error)
        { state with failed := true }
  | keep {node error} :
      Turn build renderer fileName separator state (.keeping node error) (.arriving node false)
        { state with firstError := some (node, error) }
  | arrive {node success} :
      Turn build renderer fileName separator state (.arriving node success) .counting
        (Build.arrive node success state)
  | count :
      Turn build renderer fileName separator state .counting (.reporting (state.completed + 1))
        { state with completed := state.completed + 1 }
  | report {done reports cancelled} : (state.cancelled = true → cancelled = true) →
      Turn build renderer fileName separator state (.reporting done) .looking
        { state with reports := reports, cancelled := cancelled }
  | fall {node} :
      Turn build renderer fileName separator state (.falling node) .alarming
        (Build.arrive node false state)
  | alarm :
      Turn build renderer fileName separator state .alarming (.gone true)
        { state with failed := true }

section
variable {build : Build} {renderer : Renderer} {fileName separator : String}

/-- A move leaves a page at another point, or ends its way. -/
theorem Stride.onWay {point : Waypoint} {job job' : Job} {moves : List NamedMove} {ws ws' : Workspace}
    (h : Stride build renderer fileName separator point job ws (.working job' moves) ws') :
    ∃ point, moves = build.movesFrom point := by
  cases h <;> exact ⟨_, rfl⟩

theorem Turn.onWay {state shared : BuildState} {activity : Activity} {job : Job}
    {moves : List NamedMove}
    (h : Turn build renderer fileName separator state activity (.working job moves) shared) :
    ∃ point, moves = build.movesFrom point := by
  cases h with
  | take => exact ⟨_, rfl⟩
  | work hs => exact hs.onWay

/-- The page in hand has so many moves behind it, or came to its end without an error. -/
def Activity.HasPassed (build : Build) (count : Nat) : Activity → Prop
  | working _ moves => ∃ point, moves = build.movesFrom point ∧ count ≤ point.index
  | ending .. => True
  | arriving _ success => success = true
  | _ => False

theorem hasPassed_working_iff (standard : build.Standard renderer fileName separator) {count : Nat}
    {job : Job} {point : Waypoint} :
    (Activity.working job (build.movesFrom point)).HasPassed build count ↔ count ≤ point.index := by
  constructor
  · rintro ⟨point', hmoves, hle⟩
    rwa [Build.movesFrom_injective standard hmoves]
  · intro hle; exact ⟨point, rfl, hle⟩

/-- A page that has some moves behind it had them behind it before the turn, or the turn
    was a move from a point before. -/
theorem hasPassed_of_turn (standard : build.Standard renderer fileName separator)
    {state shared : BuildState} {activity activity' : Activity} {count : Nat} (hcount : 0 < count)
    (h : Turn build renderer fileName separator state activity activity' shared)
    (hp : activity'.HasPassed build count) :
    (activity.node? = activity'.node? ∧ activity.HasPassed build count) ∨
      ∃ point job ws, activity = .working job (build.movesFrom point) ∧ point.index < count ∧
        Stride build renderer fileName separator point job state.workspace activity' ws ∧
        shared = { state with workspace := ws } := by
  cases h with
  | take => exact absurd hcount (Nat.not_lt.2 ((hasPassed_working_iff standard).1 hp))
  | @work point job _ ws hs =>
    by_cases hle : count ≤ point.index
    · have hn : activity'.node? = some job.node := by cases hs <;> rfl
      exact Or.inl ⟨hn.symm, point, rfl, hle⟩
    · exact Or.inr ⟨point, job, ws, rfl, Nat.lt_of_not_le hle, hs, rfl⟩
  | finish => exact Or.inl ⟨rfl, trivial⟩
  | failLate | keep => cases hp
  | _ => exact hp.elim

end

namespace Build
variable {build : Build} {renderer : Renderer} {fileName separator : String}

/-- The build of a numbered tree with the standard pipeline. -/
structure Regular (build : Build) (renderer : Renderer) (fileName separator : String) : Prop where
  numbered : build.site.tree.Numbered
  standard : build.Standard renderer fileName separator

theorem regular_of_load {reader : Yaml.Reader} {files : FileSystem} {format : ContentFormat}
    {root : Path} (loaded : ContentTree.load reader files format root = .ok build.site.tree)
    (standard : build.Standard renderer fileName separator) :
    build.Regular renderer fileName separator :=
  ⟨ContentTree.numbered_of_load loaded, standard⟩

/-- The pages at work stand at points of the pipeline. -/
def OnWay (build : Build) (state : BuildState) : Prop :=
  ∀ job moves, .working job moves ∈ state.workers → ∃ point, moves = build.movesFrom point

/-- **Every step is a turn.** -/
theorem turn_of_advance (regular : build.Regular renderer fileName separator)
    {state shared : BuildState} {activity activity' : Activity} (onWay : build.OnWay state)
    (ha : activity ∈ state.workers)
    (h : build.advance state activity = some (activity', shared)) :
    Turn build renderer fileName separator state activity activity' shared := by
  cases activity with
  | looking =>
    simp only [advance, Option.some.injEq, Prod.mk.injEq] at h
    obtain ⟨rfl, rfl⟩ := h
    split
    · rename_i hs; exact .leave (by simpa using hs)
    · rename_i hs
      simp only [Bool.or_eq_true, not_or, Bool.not_eq_true] at hs
      exact .look hs.1 hs.2
  | taking =>
    simp only [advance, Option.some.injEq] at h
    rw [Build.take, regular.numbered.preorder_bind_eq] at h
    rcases hn : build.site.tree.node? state.cursor with _ | node <;> simp only [hn] at h <;>
      obtain ⟨rfl, rfl⟩ := Prod.mk.inj h
    · exact .miss (List.getElem?_eq_none_iff.1 hn)
    · exact .take hn
  | working job moves =>
    obtain ⟨point, rfl⟩ := onWay _ _ ha
    obtain ⟨ws, hs, rfl⟩ := stride_of_work regular.standard h
    exact .work hs
  | failing =>
    simp only [advance] at h
    split at h <;> rename_i hf <;> simp only [Option.some.injEq, Prod.mk.injEq] at h <;>
      obtain ⟨rfl, rfl⟩ := h
    · exact .failLate hf
    · exact .failFirst (by simpa using hf)
  | reporting =>
    simp only [advance, Option.some.injEq, Prod.mk.injEq] at h
    obtain ⟨rfl, rfl⟩ := h
    split
    · exact .report (by simp +contextual)
    · exact @Turn.report _ _ _ _ state _ state.reports state.cancelled id
  | ending | keeping | arriving | counting | falling | alarming =>
    simp only [advance, Option.some.injEq, Prod.mk.injEq] at h
    obtain ⟨rfl, rfl⟩ := h
    constructor
  | gone => simp [advance] at h

/-! ## Invariants of histories -/

/-- After a turn of a worker. -/
def afterTurn (state shared : BuildState) (worker : Nat) (activity : Activity) : BuildState :=
  { shared with workers := state.workers.set worker activity }

section
variable {state shared : BuildState} {worker : Nat} {activity activity' : Activity}

theorem mem_afterTurn {b : Activity} (h : b ∈ (afterTurn state shared worker activity').workers) :
    b ∈ state.workers ∨ b = activity' := List.mem_or_eq_of_mem_set h

theorem mem_afterTurn_self (ha : state.workers[worker]? = some activity) :
    activity' ∈ (afterTurn state shared worker activity').workers :=
  List.mem_iff_getElem?.2 ⟨worker, List.getElem?_set_self (List.getElem?_eq_some_iff.1 ha).1⟩

/-- The other workers stay where they are. -/
theorem exists_mem_afterTurn {Q : Activity → Prop} (ha : state.workers[worker]? = some activity)
    (h : ∃ b ∈ state.workers, Q b) :
    Q activity ∨ ∃ b ∈ (afterTurn state shared worker activity').workers, Q b := by
  obtain ⟨b, hb, hQ⟩ := h
  obtain ⟨other, hb⟩ := List.mem_iff_getElem?.1 hb
  by_cases hw : worker = other
  · subst hw; rw [ha] at hb; cases hb; exact Or.inl hQ
  · exact Or.inr ⟨b, List.mem_iff_getElem?.2 ⟨other, by simpa [afterTurn, hw] using hb⟩, hQ⟩

end

theorem onWay_of_history (regular : build.Regular renderer fileName separator)
    {workspace : Workspace} {cancelled : Bool} {states : List BuildState}
    (h : build.History (build.start workspace cancelled) states) :
    ∀ state ∈ states, build.OnWay state := by
  refine h.invariant (fun _ _ hm => ?_) fun {s s'} onWay hn => ?_
  · cases eq_looking_of_mem_start hm
  · cases hn with
    | cancel => exact onWay
    | step hstep =>
      obtain ⟨activity, activity', shared, ha, hadv, rfl⟩ := step_eq_some_iff.1 hstep
      have turn := turn_of_advance regular onWay (List.mem_of_getElem? ha) hadv
      intro job moves hm
      rcases List.mem_or_eq_of_mem_set hm with hm | rfl
      · exact onWay _ _ hm
      · exact turn.onWay

/-- **Invariants by turns.** What holds at the start of a build and is kept by every turn
    and by a cancellation holds at every point of its history. -/
theorem History.turns (regular : build.Regular renderer fileName separator)
    {workspace : Workspace} {cancelled : Bool} {P : List BuildState → BuildState → Prop}
    (start : P [] (build.start workspace cancelled))
    (turn : ∀ {past state worker activity activity' shared},
      build.History (build.start workspace cancelled) (state :: past) → P past state →
      state.workers[worker]? = some activity →
      Turn build renderer fileName separator state activity activity' shared →
      P (state :: past) (afterTurn state shared worker activity'))
    (cancel : ∀ {past state}, build.History (build.start workspace cancelled) (state :: past) →
      P past state → state.cancelled = false → P (state :: past) (Build.cancel state))
    {past : List BuildState} {state : BuildState}
    (h : build.History (build.start workspace cancelled) (state :: past)) : P past state := by
  generalize hs : state :: past = states at h
  induction h generalizing past state with
  | start => cases hs; exact start
  | next h hn ih =>
    cases hs
    have hP := ih rfl
    cases hn with
    | cancel hc => exact cancel h hP hc
    | step hstep =>
      obtain ⟨activity, activity', shared, ha, hadv, rfl⟩ := step_eq_some_iff.1 hstep
      have onWay := onWay_of_history regular h _ List.mem_cons_self
      exact turn h hP ha (turn_of_advance regular onWay (List.mem_of_getElem? ha) hadv)

end Build

end CourseSite
