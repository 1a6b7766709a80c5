/-
  How many pages a build takes, counts and reports.

  * `claims`: the pages that were taken in a history, in the order in which they were.
  * `Build.Ledger`: the pages that were taken are the first ones of the walk through the
    tree; each of them is counted, or a worker has yet to count it; and each number up to
    the count is reported once, or a worker is about to report it.
  * `ledger_of_history`: this holds at every point of every history.
  * `claims_le_of_stopped`: once no further page is to be taken, every worker takes one
    more page at most.
-/
import Mathlib.Data.List.Count
import CourseSite.Proofs.Site.Shift

namespace CourseSite

namespace Activity

/-- The page that a worker takes between two activities. -/
def taken? : Activity → Activity → Option Nat
  | taking, working job _ => some job.node.id
  | _, _ => none

/-- The worker is about to take a page. -/
def isTaking : Activity → Bool
  | taking => true
  | _ => false

/-- The worker took a page that it has yet to count, or crashed with it. -/
def owes : Activity → Bool
  | looking | taking | reporting _ | gone false => false
  | _ => true

/-- The number that a worker is about to report. -/
def due? : Activity → Option Nat
  | reporting done => some done
  | _ => none

theorem taken?_self (activity : Activity) : taken? activity activity = none := by
  cases activity <;> rfl

end Activity

/-- The numbers of the pages that were taken in a history, in the order in which they
    were. -/
def claims : List BuildState → List Nat
  | state :: before :: past =>
    claims (before :: past) ++
      (List.zipWith Activity.taken? before.workers state.workers).filterMap id
  | _ => []

/-- There is a reason for taking no further page. -/
def BuildState.IsHalted (state : BuildState) : Prop := state.failed = true ∨ state.cancelled = true

theorem takings_self (workers : List Activity) :
    (List.zipWith Activity.taken? workers workers).filterMap id = [] := by
  simp [Activity.taken?_self]

theorem takings_set {workers : List Activity} {worker : Nat} {activity activity' : Activity}
    (h : workers[worker]? = some activity) :
    (List.zipWith Activity.taken? workers (workers.set worker activity')).filterMap id =
      (Activity.taken? activity activity').toList := by
  induction workers generalizing worker with
  | nil => cases h
  | cons first workers ih =>
    cases worker with
    | zero =>
      obtain rfl : first = activity := Option.some.inj h
      rw [List.set_cons_zero, List.zipWith_cons_cons, List.filterMap_cons, takings_self]
      cases Activity.taken? first activity' <;> rfl
    | succ worker =>
      rw [List.set_cons_succ, List.zipWith_cons_cons, Activity.taken?_self]
      exact ih h

namespace Build
variable {build : Build} {state shared : BuildState} {past : List BuildState} {worker : Nat}
  {activity activity' : Activity}

theorem claims_afterTurn (ha : state.workers[worker]? = some activity) :
    claims (afterTurn state shared worker activity' :: state :: past) =
      claims (state :: past) ++ (Activity.taken? activity activity').toList := by
  rw [claims, afterTurn, takings_set ha]

theorem claims_cancel : claims (Build.cancel state :: state :: past) = claims (state :: past) := by
  rw [claims, Build.cancel, takings_self, List.append_nil]

/-! ## The ledger -/

/-- What was taken, counted and reported. -/
structure Ledger (build : Build) (past : List BuildState) (state : BuildState) : Prop where
  crew : state.workers.length = build.crew
  claimed : claims (state :: past) = build.site.tree.preorder.take state.cursor
  owed : min state.cursor build.site.tree.size =
    state.completed + state.workers.countP Activity.owes
  reported : build.reports = true →
    (state.reports.map (·.1) ++ state.workers.filterMap Activity.due?).Perm
      (List.range' 1 state.completed)
  totals : ∀ report ∈ state.reports, report.2 = build.total
  silent : build.reports = false → state.reports = []
  /-- A worker that goes without a crash leaves no page behind, unless it was to stop. -/
  exit : .gone false ∈ state.workers →
    state.failed = true ∨ state.cancelled = true ∨ build.site.tree.size ≤ state.cursor
  cause : state.failed = true → state.HasCause

theorem ledger_start (build : Build) (workspace : Workspace) (cancelled : Bool) :
    build.Ledger [] (build.start workspace cancelled) := by
  refine ⟨List.length_replicate, rfl, ?_, fun _ => ?_, nofun, fun _ => rfl, fun hm => ?_, nofun⟩
  · simp [start, Activity.owes, List.countP_replicate]
  · simp [start, Activity.due?]
  · cases eq_looking_of_mem_start hm

section
variable (ha : state.workers[worker]? = some activity)
  (shift : Shift build state activity activity' shared)
include ha shift

theorem claimed_of_shift (numbered : build.site.tree.Numbered)
    (claimed : claims (state :: past) = build.site.tree.preorder.take state.cursor) :
    claims (afterTurn state shared worker activity' :: state :: past) =
      build.site.tree.preorder.take (afterTurn state shared worker activity').cursor := by
  rw [claims_afterTurn ha, claimed, numbered.preorder_eq]
  show _ = List.take shared.cursor _
  cases shift with
  | miss hle =>
    rw [List.take_of_length_le (by simpa using hle),
      List.take_of_length_le (by simpa using Nat.le_succ_of_le hle)]
    exact List.append_nil _
  | take hn =>
    have hlt := ContentTree.lt_size_of_node? hn
    simp [Activity.taken?, numbered.id_eq hn, List.take_add_one, hlt]
  | _ => exact List.append_nil _

theorem owed_of_shift
    (owed : min state.cursor build.site.tree.size =
      state.completed + state.workers.countP Activity.owes) :
    min (afterTurn state shared worker activity').cursor build.site.tree.size =
      (afterTurn state shared worker activity').completed +
        (afterTurn state shared worker activity').workers.countP Activity.owes := by
  show min shared.cursor _ = shared.completed + _
  obtain ⟨others, hbefore, hafter⟩ := exists_others ha shared activity'
  rw [hbefore.countP_eq, List.countP_cons] at owed
  rw [hafter.countP_eq, List.countP_cons]
  cases shift with
  | miss hle =>
    simp only [Activity.owes, Bool.false_eq_true, if_false] at owed ⊢
    omega
  | take hn =>
    have hlt := ContentTree.lt_size_of_node? hn
    simp only [Activity.owes, Bool.false_eq_true, if_false, if_true] at owed ⊢
    omega
  | _ =>
    simp only [Activity.owes, Build.arrive, Bool.false_eq_true, if_false, if_true] at owed ⊢
    omega

theorem reported_of_shift (reports : build.reports = true)
    (reported : (state.reports.map (·.1) ++ state.workers.filterMap Activity.due?).Perm
      (List.range' 1 state.completed)) :
    ((afterTurn state shared worker activity').reports.map (·.1) ++
      (afterTurn state shared worker activity').workers.filterMap Activity.due?).Perm
      (List.range' 1 (afterTurn state shared worker activity').completed) := by
  show (shared.reports.map (·.1) ++ _).Perm (List.range' 1 shared.completed)
  obtain ⟨others, hbefore, hafter⟩ := exists_others ha shared activity'
  replace reported := ((hbefore.filterMap _).append_left _).symm.trans reported
  refine ((hafter.filterMap _).append_left _).trans ?_
  cases shift with
  | count =>
    rw [List.filterMap_cons_none rfl] at reported
    rw [List.filterMap_cons_some (show Activity.due? (.reporting (state.completed + 1)) =
      some (state.completed + 1) from rfl)]
    refine List.perm_middle.trans ?_
    rw [List.range'_concat, Nat.one_mul, Nat.add_comm 1]
    exact (reported.cons _).trans (List.perm_append_singleton _ _).symm
  | report =>
    rw [List.filterMap_cons_none rfl, List.map_append, List.append_assoc]
    exact reported
  | keepQuiet hquiet => rw [reports] at hquiet; cases hquiet
  | _ => exact reported

theorem exit_of_shift
    (exit : .gone false ∈ state.workers →
      state.failed = true ∨ state.cancelled = true ∨ build.site.tree.size ≤ state.cursor)
    (hm : .gone false ∈ (afterTurn state shared worker activity').workers) :
    (afterTurn state shared worker activity').failed = true ∨
      (afterTurn state shared worker activity').cancelled = true ∨
      build.site.tree.size ≤ (afterTurn state shared worker activity').cursor := by
  show shared.failed = true ∨ shared.cancelled = true ∨ build.site.tree.size ≤ shared.cursor
  rcases mem_afterTurn hm with hm | rfl
  · have hexit := exit hm
    cases shift with
    | miss hle | take => exact hexit.imp id (Or.imp id Nat.le_succ_of_le)
    | failFirst | alarm => exact Or.inl rfl
    | report _ hc => exact hexit.imp id (Or.imp hc id)
    | _ => exact hexit
  · cases shift with
    | leave hstop => exact hstop.imp id Or.inl
    | miss hle => exact Or.inr (Or.inr (Nat.le_succ_of_le hle))

theorem hasCause_of_shift (cause : state.failed = true → state.HasCause)
    (hf : (afterTurn state shared worker activity').failed = true) :
    (afterTurn state shared worker activity').HasCause := by
  have hself : activity' ∈ (afterTurn state shared worker activity').workers :=
    mem_afterTurn_self ha
  have before (hf : state.failed = true) (hfirst : shared.firstError = state.firstError)
      (hk : ∀ node error, activity ≠ .keeping node error)
      (hc : activity.HasCrashed → activity'.HasCrashed) :
      (afterTurn state shared worker activity').HasCause := by
    rcases cause hf with hsome | hkeep | hcrash
    · exact Or.inl (hfirst ▸ hsome)
    · rcases exists_mem_afterTurn ha hkeep with ⟨node, error, he⟩ | hkeep
      · exact absurd he (hk node error)
      · exact Or.inr (Or.inl hkeep)
    · rcases exists_mem_afterTurn ha hcrash with hcrash | hcrash
      · exact Or.inr (Or.inr ⟨_, hself, hc hcrash⟩)
      · exact Or.inr (Or.inr hcrash)
  cases shift with
  | failFirst => exact Or.inr (Or.inl ⟨_, hself, _, _, rfl⟩)
  | keep => exact Or.inl rfl
  | alarm => exact Or.inr (Or.inr ⟨_, hself, trivial⟩)
  | fall => exact before hf rfl (by simp) fun _ => trivial
  | _ => exact before hf rfl (by simp) fun hc => hc.elim

end

/-- **The ledger** is right at every point of a history. -/
theorem ledger_of_history (numbered : build.site.tree.Numbered) {workspace : Workspace}
    {cancelled : Bool} (h : build.History (build.start workspace cancelled) (state :: past)) :
    build.Ledger past state := by
  refine History.shifts (P := build.Ledger) numbered (ledger_start build workspace cancelled) ?_ ?_ h
  · intro past state worker activity activity' shared _ known ha shift
    refine ⟨by rw [afterTurn, List.length_set, known.crew],
      claimed_of_shift ha shift numbered known.claimed, owed_of_shift ha shift known.owed,
      fun hr => reported_of_shift ha shift hr (known.reported hr), ?_, fun hr => ?_,
      exit_of_shift ha shift known.exit, hasCause_of_shift ha shift known.cause⟩
    · intro report hm
      replace hm : report ∈ shared.reports := hm
      cases shift with
      | report =>
        rcases List.mem_append.1 hm with hm | hm
        · exact known.totals report hm
        · rw [List.mem_singleton.1 hm]
      | _ => exact known.totals report hm
    · show shared.reports = []
      cases shift with
      | report hreports => rw [hr] at hreports; cases hreports
      | _ => exact known.silent hr
  · intro past state _ known
    exact ⟨known.crew, claims_cancel.trans known.claimed, known.owed, known.reported, known.totals,
      known.silent, fun _ => Or.inr (Or.inl rfl), known.cause⟩

/-! ## After a failure or a cancellation -/

theorem isHalted_of_shift (shift : Shift build state activity activity' shared)
    (halted : state.IsHalted) : (afterTurn state shared worker activity').IsHalted := by
  cases shift with
  | failFirst | alarm => exact Or.inl rfl
  | report _ hc => exact halted.imp id hc
  | _ => exact halted

/-- Once there is a reason to stop, no worker gets as far as to take a page; those that got
    there before take one page each. -/
theorem claims_le_of_halted (numbered : build.site.tree.Numbered) {workspace : Workspace}
    {cancelled : Bool} (h : build.History (build.start workspace cancelled) (state :: past))
    {earlier : BuildState} {before : List BuildState} (hs : earlier :: before <:+ state :: past)
    (halted : earlier.IsHalted) :
    state.IsHalted ∧
      (claims (state :: past)).length + state.workers.countP Activity.isTaking ≤
        (claims (earlier :: before)).length + earlier.workers.countP Activity.isTaking := by
  refine History.shifts (P := fun past state => earlier :: before <:+ state :: past →
    state.IsHalted ∧
      (claims (state :: past)).length + state.workers.countP Activity.isTaking ≤
        (claims (earlier :: before)).length + earlier.workers.countP Activity.isTaking)
    numbered (fun hs => ?_) ?_ ?_ h hs
  · rcases List.suffix_cons_iff.1 hs with heq | hs
    · cases heq; exact ⟨halted, Nat.le_refl _⟩
    · cases List.suffix_nil.1 hs
  · intro past state worker activity activity' shared _ ih ha shift hs
    rcases List.suffix_cons_iff.1 hs with heq | hs
    · cases heq; exact ⟨halted, Nat.le_refl _⟩
    · obtain ⟨hhalted, hle⟩ := ih hs
      refine ⟨isHalted_of_shift shift hhalted, Nat.le_trans ?_ hle⟩
      obtain ⟨others, hbefore, hafter⟩ := exists_others ha shared activity'
      rw [claims_afterTurn ha, List.length_append, hbefore.countP_eq, hafter.countP_eq,
        List.countP_cons, List.countP_cons]
      cases shift with
      | look hf hc => rcases hhalted with h | h <;> simp_all
      | _ => simp [Activity.taken?, Activity.isTaking] <;> omega
  · intro past state _ ih hs
    rcases List.suffix_cons_iff.1 hs with heq | hs
    · cases heq; exact ⟨halted, Nat.le_refl _⟩
    · refine ⟨Or.inr rfl, ?_⟩
      rw [claims_cancel]
      exact (ih hs).2

/-- The worker that keeps further pages from being taken does not take one itself. -/
theorem countP_isTaking_lt (numbered : build.site.tree.Numbered) {workspace : Workspace}
    {cancelled : Bool} (h : build.History (build.start workspace cancelled) (state :: past))
    (hf : state.failed = true) : state.workers.countP Activity.isTaking < build.crew := by
  have hexists : ∃ activity ∈ state.workers, activity.isTaking = false := by
    refine History.shifts (P := fun _ state => state.failed = true →
      ∃ activity ∈ state.workers, activity.isTaking = false) numbered nofun ?_ (fun _ ih => ih) h hf
    intro past state worker activity activity' shared _ ih ha shift hf
    have hself : activity' ∈ (afterTurn state shared worker activity').workers :=
      mem_afterTurn_self ha
    by_cases ht : activity'.isTaking = true
    · -- A worker gets to take a page only if there is no reason to stop.
      cases shift with
      | look hf' => rw [afterTurn, hf'] at hf; cases hf
      | _ => cases ht
    · exact ⟨_, hself, by simpa using ht⟩
  rw [← (ledger_of_history numbered h).crew]
  exact List.countP_lt_length_iff.2 hexists

/-! ## The end of a build -/

/-- A build comes to no error if there is neither a crash nor an error that is kept. -/
theorem outcome_eq_ok_iff {outcome : Outcome} :
    build.outcome state = .ok outcome ↔
      state.workers.any Activity.isCrash = false ∧ state.firstError = none ∧
        outcome = if state.completed < build.total ∧ state.cancelled = true
          then .cancelled ⟨build.total, state.completed, state.stopped⟩
          else .completed ⟨build.total, state.completed, state.stopped⟩ := by
  unfold Build.outcome
  cases state.workers.any Activity.isCrash with
  | true => simp
  | false =>
    cases state.firstError with
    | some first => simp
    | none =>
      by_cases h : state.completed < build.total ∧ state.cancelled = true
      · simp only [h, if_true, Bool.false_eq_true, if_false, true_and, Except.ok.injEq]
        exact eq_comm
      · simp only [h, Bool.false_eq_true, if_false, true_and, Except.ok.injEq]
        exact eq_comm

theorem outcome_eq_completed_iff {stats : Stats} :
    build.outcome state = .ok (.completed stats) ↔
      state.workers.any Activity.isCrash = false ∧ state.firstError = none ∧
        ¬ (state.completed < build.total ∧ state.cancelled = true) ∧
        stats = ⟨build.total, state.completed, state.stopped⟩ := by
  rw [outcome_eq_ok_iff]
  by_cases h : state.completed < build.total ∧ state.cancelled = true <;> simp [h]

theorem outcome_eq_cancelled_iff {stats : Stats} :
    build.outcome state = .ok (.cancelled stats) ↔
      state.workers.any Activity.isCrash = false ∧ state.firstError = none ∧
        (state.completed < build.total ∧ state.cancelled = true) ∧
        stats = ⟨build.total, state.completed, state.stopped⟩ := by
  rw [outcome_eq_ok_iff]
  by_cases h : state.completed < build.total ∧ state.cancelled = true <;> simp [h]

/-- At the end, without a crash, all pages that were taken are counted. -/
theorem Ledger.completed_eq (known : build.Ledger past state) (ended : state.IsOver)
    (survived : state.workers.any Activity.isCrash = false) :
    state.completed = min state.cursor build.site.tree.size := by
  have hnone : state.workers.countP Activity.owes = 0 := by
    refine List.countP_eq_zero.2 fun activity hm => ?_
    obtain ⟨crashed, rfl⟩ := ended activity hm
    cases crashed with
    | false => simp [Activity.owes]
    | true => exact absurd rfl (List.any_eq_false.1 survived _ hm)
  have := known.owed
  omega

/-- At the end all numbers were reported. -/
theorem Ledger.reports_perm (known : build.Ledger past state) (ended : state.IsOver)
    (reports : build.reports = true) :
    (state.reports.map (·.1)).Perm (List.range' 1 state.completed) := by
  have hnone : state.workers.filterMap Activity.due? = [] := by
    refine List.filterMap_eq_nil_iff.2 fun activity hm => ?_
    obtain ⟨crashed, rfl⟩ := ended activity hm
    rfl
  have := known.reported reports
  rwa [hnone, List.append_nil] at this

/-- A build that completed has counted all pages. -/
theorem Ledger.eq_total_of_completed (known : build.Ledger past state)
    (numbered : build.site.tree.Numbered) (ended : state.IsOver) {stats : Stats}
    (h : build.outcome state = .ok (.completed stats)) : state.completed = build.site.tree.size := by
  obtain ⟨survived, hfirst, huncancelled, -⟩ := outcome_eq_completed_iff.1 h
  have hcompleted := known.completed_eq ended survived
  rw [total, numbered.length_preorder] at huncancelled
  obtain ⟨activity, hm⟩ := List.exists_mem_of_length_pos
    (show 0 < state.workers.length by rw [known.crew, Build.crew]; omega)
  obtain ⟨crashed, rfl⟩ := ended activity hm
  cases crashed with
  | true => exact absurd rfl (List.any_eq_false.1 survived _ hm)
  | false =>
    rcases known.exit hm with hf | hc | hle
    · -- Without an error that is kept and a crash nothing has failed.
      rcases known.cause hf with hsome | ⟨_, hkeep, _, _, rfl⟩ | hcrash
      · rw [hfirst] at hsome; cases hsome
      · obtain ⟨_, hg⟩ := ended _ hkeep; cases hg
      · rw [(any_isCrash_iff ended).2 hcrash] at survived; cases survived
    · have : ¬ state.completed < build.site.tree.size := fun hlt => huncancelled ⟨hlt, hc⟩
      omega
    · omega

end Build

end CourseSite
