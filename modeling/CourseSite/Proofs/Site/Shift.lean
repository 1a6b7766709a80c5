/-
  What one step of a worker does to the counters of a build, whatever the stages are.

  * `Shift`: from the activity of a worker to its next one, with what the workers share
    after it; what a move does to a page and to the workspace is left open.
  * `shift_of_advance`: every step in the build of a numbered tree is a shift.
  * `exists_others`: the other workers stay, so sums over the workers change by what the
    one worker contributes.
  * `History.shifts`: what every shift and a cancellation keep holds in all states of a
    history.
-/
import Mathlib.Data.List.Perm.Basic
import CourseSite.Proofs.Site.Failure

namespace CourseSite

/-- What a step can do to the counters: from the activity before it to the activity and
    the shared state after it. -/
inductive Shift (build : Build) (state : BuildState) : Activity → Activity → BuildState → Prop
  | leave : state.failed = true ∨ state.cancelled = true →
      Shift build state .looking (.gone false) state
  | look : state.failed = false → state.cancelled = false → Shift build state .looking .taking state
  | miss : build.site.tree.size ≤ state.cursor →
      Shift build state .taking (.gone false) { state with cursor := state.cursor + 1 }
  | take {job moves ws} : build.site.tree.node? state.cursor = some job.node →
      Shift build state .taking (.working job moves)
        { state with cursor := state.cursor + 1, workspace := ws }
  | move {job moves job' moves' ws} :
      Shift build state (.working job moves) (.working job' moves') { state with workspace := ws }
  | stop {job moves node stopped ws} :
      Shift build state (.working job moves) (.ending node stopped) { state with workspace := ws }
  | fail {job moves node error ws} :
      Shift build state (.working job moves) (.failing node error) { state with workspace := ws }
  | crash {job moves node} : Shift build state (.working job moves) (.falling node) state
  | finish {node stopped} :
      Shift build state (.ending node stopped) (.arriving node true)
        { state with stopped := state.stopped + stopped.toNat }
  | failLate {node error} : state.failed = true →
      Shift build state (.failing node error) (.arriving node false) state
  | failFirst {node error} : state.failed = false →
      Shift build state (.failing node error) (.keeping node error) { state with failed := true }
  | keep {node error} :
      Shift build state (.keeping node error) (.arriving node false)
        { state with firstError := some (node, error) }
  | arrive {node success} :
      Shift build state (.arriving node success) .counting (Build.arrive node success state)
  | count :
      Shift build state .counting (.reporting (state.completed + 1))
        { state with completed := state.completed + 1 }
  | report {done cancelled} : build.reports = true → (state.cancelled = true → cancelled = true) →
      Shift build state (.reporting done) .looking
        { state with reports := state.reports ++ [(done, build.total)], cancelled := cancelled }
  | keepQuiet {done} : build.reports = false → Shift build state (.reporting done) .looking state
  | fall {node} :
      Shift build state (.falling node) .alarming (Build.arrive node false state)
  | alarm : Shift build state .alarming (.gone true) { state with failed := true }

namespace Build
variable {build : Build} {state shared : BuildState} {worker : Nat} {activity activity' : Activity}

/-- **Every step is a shift.** -/
theorem shift_of_advance (numbered : build.site.tree.Numbered)
    (h : build.advance state activity = some (activity', shared)) :
    Shift build state activity activity' shared := by
  cases activity with
  | looking =>
    simp only [advance, Option.some.injEq, Prod.mk.injEq] at h
    obtain ⟨rfl, rfl⟩ := h
    split
    · rename_i hs; exact .leave (by simpa using hs)
    · rename_i hs
      simp only [Bool.or_eq_true, not_or, Bool.not_eq_true] at hs
      exact .look hs.1 hs.2
  | taking =>
    simp only [advance, Option.some.injEq] at h
    rw [Build.take, numbered.preorder_bind_eq] at h
    rcases hn : build.site.tree.node? state.cursor with _ | node <;> simp only [hn] at h <;>
      obtain ⟨rfl, rfl⟩ := Prod.mk.inj h
    · exact .miss (List.getElem?_eq_none_iff.1 hn)
    · exact .take (by exact hn)
  | working job moves =>
    cases moves with
    | nil =>
      simp only [advance, work, Option.some.injEq, Prod.mk.injEq] at h
      obtain ⟨rfl, rfl⟩ := h
      exact @Shift.stop _ state _ _ _ _ state.workspace
    | cons named moves =>
      simp only [advance, work] at h
      split at h <;> simp only [Option.some.injEq, Prod.mk.injEq, reduceCtorEq] at h <;>
        obtain ⟨rfl, rfl⟩ := h
      · exact .move
      · exact .stop
      · exact .fail
      · exact .crash
  | failing =>
    simp only [advance] at h
    split at h <;> rename_i hf <;> simp only [Option.some.injEq, Prod.mk.injEq] at h <;>
      obtain ⟨rfl, rfl⟩ := h
    · exact .failLate hf
    · exact .failFirst (by simpa using hf)
  | reporting =>
    simp only [advance, Option.some.injEq, Prod.mk.injEq] at h
    obtain ⟨rfl, rfl⟩ := h
    split
    · rename_i hr; exact .report hr (by simp +contextual)
    · rename_i hr; exact .keepQuiet (by simpa using hr)
  | ending | keeping | arriving | counting | falling | alarming =>
    simp only [advance, Option.some.injEq, Prod.mk.injEq] at h
    obtain ⟨rfl, rfl⟩ := h
    constructor
  | gone => simp [advance] at h

/-- The other workers stay where they are. -/
theorem exists_others (ha : state.workers[worker]? = some activity) (shared : BuildState)
    (activity' : Activity) :
    ∃ others, state.workers.Perm (activity :: others) ∧
      (afterTurn state shared worker activity').workers.Perm (activity' :: others) := by
  obtain ⟨hlt, rfl⟩ := List.getElem?_eq_some_iff.1 ha
  exact ⟨state.workers.eraseIdx worker, (List.getElem_cons_eraseIdx_perm hlt).symm,
    List.set_perm_cons_eraseIdx hlt activity'⟩

/-- **Invariants by shifts.** What holds at the start of a build and is kept by every
    shift and by a cancellation holds at every point of its history. -/
theorem History.shifts (numbered : build.site.tree.Numbered) {workspace : Workspace}
    {cancelled : Bool} {P : List BuildState → BuildState → Prop}
    (start : P [] (build.start workspace cancelled))
    (shift : ∀ {past state worker activity activity' shared},
      build.History (build.start workspace cancelled) (state :: past) → P past state →
      state.workers[worker]? = some activity → Shift build state activity activity' shared →
      P (state :: past) (afterTurn state shared worker activity'))
    (cancel : ∀ {past state}, build.History (build.start workspace cancelled) (state :: past) →
      P past state → P (state :: past) (Build.cancel state))
    {past : List BuildState}
    (h : build.History (build.start workspace cancelled) (state :: past)) : P past state := by
  generalize hs : state :: past = states at h
  induction h generalizing past state with
  | start => cases hs; exact start
  | next h hn ih =>
    cases hs
    have hP := ih rfl
    cases hn with
    | cancel => exact cancel h hP
    | step hstep =>
      obtain ⟨activity, activity', shared, ha, hadv, rfl⟩ := step_eq_some_iff.1 hstep
      exact shift h hP ha (shift_of_advance numbered hadv)

end Build

end CourseSite
