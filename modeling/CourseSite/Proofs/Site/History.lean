/-
  What a build can go through, whatever the order of its workers' steps.

  * `Build.Next`: one step of any worker, or a cancellation.
  * `Build.History`: the states from the start of a build up to now, latest first.
  * `step_eq_some_iff`: a step changes the activity of its worker and what the
    workers share, and leaves the other workers where they are.
  * `History.invariant`: what holds at the start and is kept by every step holds in
    all states of a history.
  * `exists_history_run`: the steps of `Build.run` are one such history.
  * `Build.perform`: what some signals make of a build, one after the other;
    `exists_signals_of_history`: every history comes from signals.
-/
import CourseSite.Site.Build

namespace CourseSite

namespace Activity

/-- The page that a worker has in hand. -/
def node? : Activity → Option Node
  | working job _ => some job.node
  | ending node _ | failing node _ | keeping node _ | arriving node _ | falling node => some node
  | looking | taking | counting | reporting _ | alarming | gone _ => none

/-- The worker takes no more steps. -/
def IsGone (activity : Activity) : Prop := ∃ crashed, activity = .gone crashed

end Activity

/-- Some worker has the page in hand. -/
def BuildState.Holds (state : BuildState) (node : Node) : Prop :=
  ∃ activity ∈ state.workers, activity.node? = some node

/-- The build is over: all its workers are gone. -/
def BuildState.IsOver (state : BuildState) : Prop := ∀ activity ∈ state.workers, activity.IsGone

namespace Build
variable {build : Build}

/-- What can happen next in a build: a worker takes its next step, or a cancellation is
    asked for.  Asking again changes nothing. -/
inductive Next (build : Build) (state : BuildState) : BuildState → Prop
  | step {worker state'} : build.step worker state = some state' → Next build state state'
  | cancel : state.cancelled = false → Next build state (Build.cancel state)

/-- The states that a build has gone through, latest first. -/
inductive History (build : Build) (first : BuildState) : List BuildState → Prop
  | start : History build first [first]
  | next {state past state'} : History build first (state :: past) → build.Next state state' →
      History build first (state' :: state :: past)

/-- At the start all workers look for a page. -/
theorem eq_looking_of_mem_start {workspace : Workspace} {cancelled : Bool} {activity : Activity}
    (h : activity ∈ (build.start workspace cancelled).workers) : activity = .looking :=
  List.eq_of_mem_replicate h

/-- A state that a build has gone through has a history of its own. -/
theorem History.exists_past {first state : BuildState} {states : List BuildState}
    (h : build.History first states) (hs : state ∈ states) :
    ∃ past, build.History first (state :: past) ∧ state :: past <:+ states := by
  induction h with
  | start => cases List.mem_singleton.1 hs; exact ⟨[], .start, List.suffix_rfl⟩
  | next h hn ih =>
    rcases List.mem_cons.1 hs with rfl | hs
    · exact ⟨_, h.next hn, List.suffix_rfl⟩
    · obtain ⟨past, hpast, hsuffix⟩ := ih hs
      exact ⟨past, hpast, hsuffix.trans (List.suffix_cons ..)⟩

/-- **Invariants.** What the first state has and every step keeps, all states have. -/
theorem History.invariant {first : BuildState} {states : List BuildState} {P : BuildState → Prop}
    (h : build.History first states) (h₀ : P first)
    (hs : ∀ {s s'}, P s → build.Next s s' → P s') : ∀ s ∈ states, P s := by
  induction h with
  | start => simpa using h₀
  | next _ hn ih =>
    intro s hs'
    rcases List.mem_cons.1 hs' with rfl | hs'
    · exact hs (ih _ (by simp)) hn
    · exact ih s hs'

/-! ## Steps -/

theorem advance_workers {state state' : BuildState} {activity activity' : Activity}
    (h : build.advance state activity = some (activity', state')) :
    state'.workers = state.workers := by
  cases activity with
  | working job moves =>
    simp only [advance, work] at h
    repeat' split at h
    all_goals simp only [Option.some.injEq, Prod.mk.injEq, reduceCtorEq] at h
    all_goals (obtain ⟨-, rfl⟩ := h; rfl)
  | taking =>
    simp only [advance, take, Option.some.injEq] at h
    split at h <;> (obtain ⟨-, rfl⟩ := Prod.mk.inj h; rfl)
  | looking | ending | failing | keeping | arriving | counting | reporting | falling | alarming | gone =>
    simp only [advance, arrive] at h
    repeat' split at h
    all_goals simp only [Option.some.injEq, Prod.mk.injEq, reduceCtorEq] at h
    all_goals (obtain ⟨-, rfl⟩ := h; rfl)

theorem step_eq_some_iff {worker : Nat} {state state' : BuildState} :
    build.step worker state = some state' ↔
      ∃ activity activity' shared, state.workers[worker]? = some activity ∧
        build.advance state activity = some (activity', shared) ∧
        state' = { shared with workers := state.workers.set worker activity' } := by
  simp only [step, bind, Option.bind_eq_some_iff, pure, Option.some.injEq]
  constructor
  · rintro ⟨activity, ha, ⟨activity', shared⟩, hs, rfl⟩
    exact ⟨activity, activity', shared, ha, hs, by rw [advance_workers hs]⟩
  · rintro ⟨activity, activity', shared, ha, hs, rfl⟩
    exact ⟨activity, ha, _, hs, by rw [advance_workers hs]⟩

/-- A worker is stuck if it is gone, or if its page has to wait. -/
theorem step_eq_none_iff {worker : Nat} {state : BuildState} {activity : Activity}
    (ha : state.workers[worker]? = some activity) :
    build.step worker state = none ↔
      activity.IsGone ∨ ∃ job moves, activity = .working job moves ∧
        build.work job moves state = none := by
  have hstep : build.step worker state = none ↔ build.advance state activity = none := by
    cases h : build.advance state activity <;> simp [step, ha, h]
  rw [hstep]
  cases activity with
  | failing => simp only [advance]; split <;> simp [Activity.IsGone]
  | working job moves =>
    constructor
    · intro h; exact Or.inr ⟨job, moves, rfl, h⟩
    · rintro (⟨_, h⟩ | ⟨job, moves, h, hw⟩)
      · cases h
      · cases h; exact hw
  | looking | taking | ending | keeping | arriving | counting | reporting | falling | alarming
    | gone => simp [advance, Activity.IsGone]

/-! ## Given orders -/

/-- The steps of some workers one after the other, up to the first that has none. -/
def follow (build : Build) : List Nat → BuildState → BuildState
  | [], state => state
  | worker :: workers, state =>
    match build.step worker state with
    | none => state
    | some state => follow build workers state

/-- The steps of any order are a history. -/
theorem exists_history_follow {first : BuildState} :
    ∀ {workers : List Nat} {state : BuildState} {past : List BuildState},
      build.History first (state :: past) →
        ∃ past', build.History first (build.follow workers state :: past')
  | [], _, past, h => ⟨past, h⟩
  | worker :: workers, state, past, h => by
    rw [follow]
    split
    · exact ⟨past, h⟩
    · exact exists_history_follow (h.next (.step ‹_›))

theorem firstStep_eq_some {state state' : BuildState} :
    ∀ {count worker : Nat}, build.firstStep state count worker = some state' →
      ∃ worker, build.step worker state = some state'
  | 0, _, h => by simp [firstStep] at h
  | count + 1, worker, h => by
    simp only [firstStep] at h
    split at h
    · rename_i hs; cases h; exact ⟨worker, hs⟩
    · exact firstStep_eq_some h

theorem exists_history_runWithin {first : BuildState} :
    ∀ {fuel : Nat} {state : BuildState} {past : List BuildState},
      build.History first (state :: past) →
        ∃ past', build.History first (build.runWithin fuel state :: past')
  | 0, _, past, h => ⟨past, h⟩
  | fuel + 1, state, past, h => by
    rw [runWithin]
    split
    · exact ⟨past, h⟩
    · rename_i hs
      obtain ⟨worker, hs⟩ := firstStep_eq_some hs
      exact exists_history_runWithin (h.next (.step hs))

/-- The steps of a run are a history. -/
theorem exists_history_run (build : Build) (workspace : Workspace) (cancelled : Bool) :
    ∃ past, build.History (build.start workspace cancelled)
      (build.run workspace cancelled :: past) :=
  exists_history_runWithin .start

/-! ## Signals -/

/-- What moves a build on: a worker is to take its next step, or a cancellation is asked for. -/
inductive Signal where
  | worker (number : Nat)
  | cancellation

/-- The state after a signal.  A worker that has no next step leaves it as it is. -/
def react (build : Build) (state : BuildState) : Signal → BuildState
  | .worker number => (build.step number state).getD state
  | .cancellation => cancel state

/-- The state after some signals. -/
def perform (build : Build) (state : BuildState) (signals : List Signal) : BuildState :=
  signals.foldl build.react state

theorem exists_history_react {first state : BuildState} {past : List BuildState}
    (h : build.History first (state :: past)) (signal : Signal) :
    ∃ past', build.History first (build.react state signal :: past') := by
  cases signal with
  | worker number =>
    rw [react]
    cases hs : build.step number state with
    | none => exact ⟨past, h⟩
    | some state' => exact ⟨_, h.next (.step hs)⟩
  | cancellation =>
    cases hc : state.cancelled with
    | false => exact ⟨_, h.next (.cancel hc)⟩
    | true =>
      have hsame : cancel state = state := by rw [cancel, ← hc]
      exact ⟨past, by rw [react, hsame]; exact h⟩

/-- What signals make of a build is a history. -/
theorem exists_history_perform {first : BuildState} {signals : List Signal} :
    ∀ {state : BuildState} {past : List BuildState}, build.History first (state :: past) →
      ∃ past', build.History first (build.perform state signals :: past') := by
  induction signals with
  | nil => intro state past h; exact ⟨past, h⟩
  | cons signal signals ih =>
    intro state past h
    obtain ⟨past', h'⟩ := exists_history_react h signal
    exact ih h'

/-- Every history comes from signals. -/
theorem exists_signals_of_history {first state : BuildState} {past : List BuildState}
    (h : build.History first (state :: past)) : ∃ signals, build.perform first signals = state := by
  generalize hs : state :: past = states at h
  induction h generalizing state past with
  | start => cases hs; exact ⟨[], rfl⟩
  | @next before past' after h hn ih =>
    cases hs
    obtain ⟨signals, hsignals⟩ := ih rfl
    have happend (signal : Signal) : build.perform first (signals ++ [signal]) =
        build.react before signal := by
      rw [← hsignals, perform, List.foldl_append]; rfl
    cases hn with
    | @step worker _ hstep =>
      refine ⟨_, (happend (.worker worker)).trans ?_⟩
      rw [react, hstep]; rfl
    | cancel => exact ⟨_, happend .cancellation⟩

end Build

end CourseSite
