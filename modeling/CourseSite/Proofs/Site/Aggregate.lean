/-
  No file of an aggregate page is written with a text missing.

  * `BuildState.Lost`: a page failed or crashed, and has arrived so or will.
  * `Build.Since`: what stays as it was from one state to all later ones: arrivals,
    texts that were left, and that a page is lost and its text missing.
  * `no_partial_aggregate`: hence the page that writes the file has the texts of all
    documents, each once and in order, and if the text of one is missing, no page
    writes it.
-/
import CourseSite.Proofs.Site.Failure
import CourseSite.Proofs.Site.Fragments

namespace CourseSite

open Barrier

/-- The page in hand failed or crashed. -/
def Activity.IsLost : Activity → Prop
  | failing .. | keeping .. | falling _ => True
  | arriving _ success => success = false
  | _ => False

/-- A page failed or crashed, and has arrived so or will. -/
def BuildState.Lost (state : BuildState) (node : Node) : Prop :=
  state.workspace.arrival? node = some .failed ∨
    ∃ activity ∈ state.workers, activity.node? = some node ∧ activity.IsLost

namespace Build
variable {build : Build} {renderer : Renderer} {fileName separator : String}

/-- What stays as it was from a state to a later one. -/
structure Since (build : Build) (state later : BuildState) : Prop where
  cursor : state.cursor ≤ later.cursor
  done : ∀ {node : Node}, build.site.tree.node? node.id = some node →
    state.workspace.arrival? node = some .done → later.workspace.arrival? node = some .done
  stored : ∀ {node : Node}, state.Stored node → later.Stored node
  lost : ∀ {node : Node} {p : Nat}, build.site.tree.node? node.id = some node →
    node.parent = some p → state.Lost node →
    later.Lost node ∧ (¬ state.Stored node → ¬ later.Stored node)

theorem Since.refl (build : Build) (state : BuildState) : build.Since state state :=
  ⟨Nat.le_refl _, fun _ h => h, fun h => h, fun _ _ h => ⟨h, fun hs => hs⟩⟩

theorem Since.trans {s₁ s₂ s₃ : BuildState} (h : build.Since s₁ s₂) (h' : build.Since s₂ s₃) :
    build.Since s₁ s₃ := by
  refine ⟨Nat.le_trans h.cursor h'.cursor, fun hn hd => h'.done hn (h.done hn hd),
    fun hs => h'.stored (h.stored hs), fun hn hp hl => ?_⟩
  obtain ⟨hl', hs⟩ := h.lost hn hp hl
  obtain ⟨hl'', hs'⟩ := h'.lost hn hp hl'
  exact ⟨hl'', fun hns => hs' (hs hns)⟩

/-! ## Lost pages -/

section
variable {state shared : BuildState} {worker : Nat} {activity activity' : Activity}

theorem arrival?_afterArrive (d : build.Dispatched state)
    (ha : state.workers[worker]? = some activity) {node : Node} {p : Nat} (success : Bool)
    (hn : activity.node? = some node) (hp : node.parent = some p) :
    (Build.arrive node success state).workspace.arrival? node =
      some (if success then .done else .failed) := by
  have hpend := d.pending (d.held ha hn).1 hp (Or.inr (holds_iff.2 ⟨_, _, ha, hn⟩))
  rw [Build.arrive, Workspace.arrival?_arrive, if_pos ⟨rfl, rfl⟩, hpend]; rfl

/-- A page that is lost stays so. -/
theorem lost_afterTurn (numbered : build.site.tree.Numbered) (d : build.Dispatched state)
    (ha : state.workers[worker]? = some activity)
    (turn : Turn build renderer fileName separator state activity activity' shared)
    {node : Node} {p : Nat} (hnode : build.site.tree.node? node.id = some node)
    (hp : node.parent = some p) (hl : state.Lost node) :
    (afterTurn state shared worker activity').Lost node := by
  rcases hl with hf | hl
  · exact Or.inl (arrival?_of_turn numbered d ha turn hnode hf nofun)
  rcases exists_mem_afterTurn ha hl with ⟨hn, hl⟩ | hl
  · have hself : activity' ∈ (afterTurn state shared worker activity').workers :=
      mem_afterTurn_self ha
    cases turn with
    | failLate | failFirst | keep => exact Or.inr ⟨_, hself, hn, by trivial⟩
    | arrive =>
      cases hn; cases hl
      exact Or.inl (arrival?_afterArrive d ha false rfl hp)
    | fall => cases hn; exact Or.inl (arrival?_afterArrive d ha false rfl hp)
    | _ => exact hl.elim
  · exact Or.inr hl

/-- A page that is lost leaves no text any more. -/
theorem not_stored_afterTurn (numbered : build.site.tree.Numbered) (d : build.Dispatched state)
    (ha : state.workers[worker]? = some activity)
    (turn : Turn build renderer fileName separator state activity activity' shared)
    {node : Node} {p : Nat} (hnode : build.site.tree.node? node.id = some node)
    (hp : node.parent = some p) (hl : state.Lost node) (hs : ¬ state.Stored node) :
    ¬ (afterTurn state shared worker activity').Stored node := by
  rintro ⟨q, text, hq, hm⟩
  replace hm : (node.position, text) ∈ shared.workspace.fragments q := hm
  rw [hp] at hq; cases hq
  rcases turn.fragments with hsame | ⟨job, rfl, -, hw⟩
  · exact hs ⟨p, text, hp, hsame p ▸ hm⟩
  rw [hw, Workspace.fragments_insertFragment] at hm
  split at hm
  · rename_i hin
    rcases mem_putFragment hm with ⟨hpos, -⟩ | hm
    · -- The page itself is at work, and so it is not lost.
      have hnode' := (d.held ha rfl).1
      have heq := numbered.eq_of_place hnode hnode' hp hin.1 hpos
      rcases hl with hf | ⟨b, hb, hbn, hbl⟩
      · rw [heq, d.pending hnode' hin.1 (Or.inr ⟨_, List.mem_of_getElem? ha, rfl⟩)] at hf
        cases hf
      · obtain ⟨other, hb⟩ := List.mem_iff_getElem?.1 hb
        have := d.apart hb ha hbn (heq ▸ rfl)
        subst this
        rw [ha] at hb; cases hb; exact hbl
    · exact hs ⟨p, text, hp, hm⟩
  · exact hs ⟨p, text, hp, hm⟩

theorem since_of_turn (numbered : build.site.tree.Numbered) (d : build.Dispatched state)
    (ha : state.workers[worker]? = some activity)
    (turn : Turn build renderer fileName separator state activity activity' shared) :
    build.Since state (afterTurn state shared worker activity') :=
  ⟨cursor_le_of_turn turn, fun hn hd => arrival?_of_turn numbered d ha turn hn hd nofun,
    stored_of_turn turn, fun hn hp hl => ⟨lost_afterTurn numbered d ha turn hn hp hl,
      not_stored_afterTurn numbered d ha turn hn hp hl⟩⟩

end

/-- **What stays.** A state of a history has kept what its earlier states had. -/
theorem since_of_history (regular : build.Regular renderer fileName separator)
    {workspace : Workspace} {cancelled : Bool} {past : List BuildState} {state : BuildState}
    (h : build.History (build.start workspace cancelled) (state :: past)) :
    ∀ s ∈ state :: past, build.Since s state := by
  refine History.turns (P := fun past state => ∀ s ∈ state :: past, build.Since s state) regular
    ?_ ?_ ?_ h
  · intro s hs
    cases List.mem_singleton.1 hs; exact .refl ..
  · intro past state worker activity activity' shared history ih ha turn s hs
    rcases List.mem_cons.1 hs with rfl | hs
    · exact .refl ..
    · exact (ih s hs).trans
        (since_of_turn regular.numbered (dispatched_of_history regular history) ha turn)
  · intro past state _ ih _ s hs
    rcases List.mem_cons.1 hs with rfl | hs
    · exact .refl ..
    · obtain ⟨hc, hd, hst, hl⟩ := ih s hs
      exact ⟨hc, hd, hst, hl⟩

/-! ## Writing the file -/

/-- What a child of an aggregate page has with it when it is about to write. -/
theorem combined_of_writing {past : List BuildState} {state : BuildState}
    (known : build.Gathers renderer fileName separator past state) {job : Job} {parent : Node}
    (hm : .working job (build.movesFrom .writing) ∈ state.workers)
    (hg : build.site.tree.gatherer? job.node = some parent) :
    (build.site.tree.documents parent).getLast? = some job.node ∧
      ∃ texts, List.Forall₂ (build.Expanded (state :: past)) (build.site.tree.documents parent) texts ∧
        ∃ text, build.Rendered renderer (state :: past)
            (.combined build.site fileName parent job.node (separator.intercalate texts)) text ∧
          job = { Job.combined build.site fileName parent job.node (separator.intercalate texts) with
            text := text } := by
  cases known.carries hm with
  | waiting hp => rcases hp with hp | hp <;> cases hp
  | rendered _ hc hr =>
    cases hc with
    | own hnone =>
      exact absurd (hnone.symm.trans hg) nofun
    | combined hg' hlast he =>
      have heq : _ = parent := Option.some.inj (hg'.symm.trans hg)
      subst heq
      exact ⟨hlast, _, he, _, hr, rfl⟩

/-- A page that failed or crashed is lost. -/
theorem lost_of_fails {states : List BuildState} {node : Node}
    (h : (∃ error, Fails states node error) ∨ Crashes states node) :
    ∃ state ∈ states, state.Lost node := by
  rcases h with ⟨error, s, hs, hm⟩ | ⟨s, hs, hm⟩
  · exact ⟨s, hs, Or.inr ⟨_, hm, rfl, trivial⟩⟩
  · exact ⟨s, hs, Or.inr ⟨_, hm, rfl, trivial⟩⟩

/-- A page that arrived well is not lost. -/
theorem not_lost_of_done {state : BuildState} (d : build.Dispatched state) {node : Node} {p : Nat}
    (hnode : build.site.tree.node? node.id = some node) (hp : node.parent = some p)
    (hdone : state.workspace.arrival? node = some .done) : ¬ state.Lost node := by
  rintro (hf | ⟨activity, hm, hn, -⟩)
  · rw [hdone] at hf; cases hf
  · rw [d.pending hnode hp (Or.inr ⟨_, hm, hn⟩)] at hdone; cases hdone

/-- **No partial aggregate.** In every history of the build of a loaded tree, whatever
    pages failed or crashed and whether or not it was cancelled, for an aggregate page:

    * a child that is about to write has the file of the aggregate page rendered from the
      expanded texts of all documents below it, each once and in order; it is the last
      of them, and no child before it failed or crashed;
    * if a document failed or crashed before its text was left, or was not taken, then no
      child writes the file. -/
theorem no_partial_aggregate {reader : Yaml.Reader} {files : FileSystem} {format : ContentFormat}
    {root : Path} (loaded : ContentTree.load reader files format root = .ok build.site.tree)
    (standard : build.Standard renderer fileName separator) {workspace : Workspace}
    {cancelled : Bool} {past : List BuildState} {state : BuildState}
    (history : build.History (build.start workspace cancelled) (state :: past)) {parent : Node}
    (aggregate : parent.page.isAggregate = true) :
    (∀ s ∈ state :: past, ∀ job, .working job (build.movesFrom .writing) ∈ s.workers →
      build.site.tree.parent? job.node = some parent →
      (build.site.tree.documents parent).getLast? = some job.node ∧
      (∃ texts, List.Forall₂ (build.Expanded (state :: past)) (build.site.tree.documents parent)
          texts ∧
        ∃ text, build.Rendered renderer (state :: past)
            (.combined build.site fileName parent job.node (separator.intercalate texts)) text ∧
          job = { Job.combined build.site fileName parent job.node (separator.intercalate texts) with
            text := text }) ∧
      (∀ doc ∈ build.site.tree.documents parent, s.Stored doc) ∧
      ∀ sibling, build.site.tree.Precedes sibling job.node →
        (∀ error, ¬ Fails (state :: past) sibling error) ∧ ¬ Crashes (state :: past) sibling) ∧
    ∀ doc ∈ build.site.tree.documents parent,
      (∃ s ∈ state :: past, ((∃ error, .failing doc error ∈ s.workers) ∨ .falling doc ∈ s.workers) ∧
        ¬ s.Stored doc) ∨ ¬ state.Taken build doc →
      ∀ s ∈ state :: past, ∀ job, .working job (build.movesFrom .writing) ∈ s.workers →
        build.site.tree.parent? job.node ≠ some parent := by
  have regular := regular_of_load loaded standard
  have numbered := regular.numbered
  have since := since_of_history regular history
  have d := dispatched_of_history regular history
  have gatherer {node : Node} (hp : build.site.tree.parent? node = some parent) :
      build.site.tree.gatherer? node = some parent :=
    ContentTree.gatherer?_eq_some_iff.2 ⟨hp, aggregate⟩
  -- Whoever is about to write finds the texts of all documents.
  have stored {s : BuildState} {job : Job} {doc : Node} (hs : s ∈ state :: past)
      (hm : .working job (build.movesFrom .writing) ∈ s.workers)
      (hp : build.site.tree.parent? job.node = some parent)
      (hd : doc ∈ build.site.tree.documents parent) : s.Stored doc := by
    obtain ⟨before, hbefore, -⟩ := history.exists_past hs
    have known := gathers_of_history regular hbefore
    exact stored_of_gatherer numbered known hm (by decide) (gatherer hp)
      (combined_of_writing known hm (gatherer hp)).1 hd
  refine ⟨fun s hs job hm hp => ?_, fun doc hd hmissing s hs job hm hp => ?_⟩
  · obtain ⟨before, hbefore, hsuffix⟩ := history.exists_past hs
    have known := gathers_of_history regular hbefore
    obtain ⟨hlast, texts, htexts, text, hr, hjob⟩ :=
      combined_of_writing known hm (gatherer hp)
    refine ⟨hlast, ⟨texts, htexts.imp fun _ _ h => h.mono hsuffix.subset, text,
      hr.mono hsuffix.subset, hjob⟩, fun doc hd => stored hs hm hp hd, fun sibling hsib => ?_⟩
    have hdone := (since s hs).done hsib.1
      (known.met hm (by decide) (by rw [gatherer hp]; rfl) sibling hsib)
    have hsp : sibling.parent = some parent.id :=
      hsib.2.1.trans (numbered.parent?_eq_some_iff.1 hp).1
    have hnot : ¬ ∃ s ∈ state :: past, s.Lost sibling := by
      rintro ⟨s, hs, hl⟩
      exact not_lost_of_done d hsib.1 hsp hdone ((since s hs).lost hsib.1 hsp hl).1
    exact ⟨fun error hf => hnot (lost_of_fails (Or.inl ⟨error, hf⟩)),
      fun hc => hnot (lost_of_fails (Or.inr hc))⟩
  · obtain ⟨hdoc, hdp, -⟩ :=
      (numbered.mem_documents_iff (numbered.parent?_eq_some_iff.1 hp).2).1 hd
    have hstored : state.Stored doc := (since s hs).stored (stored hs hm hp hd)
    rcases hmissing with ⟨t, ht, hfail, hnot⟩ | hnot
    · have hl : t.Lost doc := by
        rcases hfail with ⟨error, hf⟩ | hf <;> exact Or.inr ⟨_, hf, rfl, trivial⟩
      exact ((since t ht).lost hdoc hdp hl).2 hnot hstored
    · obtain ⟨q, text, hq, ht⟩ := hstored
      obtain ⟨child, hchild, hcp, hpos, hlt, -⟩ := (gathers_of_history regular history).sound ht
      rw [hdp] at hq; cases hq
      rw [numbered.eq_of_place hdoc hchild hdp hcp hpos.symm, taken_iff numbered hchild] at hnot
      exact hnot hlt

end Build

/-! ## A page that writes -/

/-- The page `two` is about to write the file of the page above it. -/
def Sample.writing : BuildState :=
  build.follow (List.replicate 25 0 ++ List.replicate 10 1) (build.start workspace false)

/-- A page below an aggregate page is at work, with two moves ahead. -/
def Sample.isWriting : Activity → Bool
  | .working job moves =>
    moves.length == 2 && (build.site.tree.parent? job.node).any (·.page.isAggregate)
  | _ => false

open Sample in
/-- The file is made from the texts of both pages. -/
theorem no_partial_aggregate_writing :
    ∃ states parent job, .working job (build.movesFrom .writing) ∈ writing.workers ∧
      build.site.tree.parent? job.node = some parent ∧
      ∃ texts, List.Forall₂ (build.Expanded states) (build.site.tree.documents parent) texts ∧
        ∃ text, build.Rendered .plain states
          (.combined build.site "all.html" parent job.node ("|".intercalate texts)) text := by
  obtain ⟨past, history⟩ : ∃ past, build.History (build.start workspace false) (writing :: past) :=
    Build.exists_history_follow .start
  have hwriting : writing.workers.any isWriting = true := by decide +kernel
  obtain ⟨activity, hm, hwriting⟩ := List.any_eq_true.1 hwriting
  unfold isWriting at hwriting
  split at hwriting
  · rename_i job moves
    obtain ⟨hlength, hparent⟩ := Bool.and_eq_true_iff.1 hwriting
    obtain ⟨parent, hp, haggregate⟩ := (Option.any_eq_true ..).1 hparent
    -- A page with two moves ahead is about to write.
    have regular := Build.regular_of_load loaded standard
    obtain ⟨point, rfl⟩ := Build.onWay_of_history regular history _ List.mem_cons_self _ _ hm
    have hpoint : point = .writing := by
      rw [Build.length_movesFrom standard, beq_iff_eq] at hlength
      have := point.index_le
      exact Waypoint.index_injective (show point.index = 8 by omega)
    subst hpoint
    obtain ⟨-, ⟨texts, htexts, text, hr, -⟩, -⟩ :=
      (Build.no_partial_aggregate loaded standard history haggregate).1 _ List.mem_cons_self _ hm hp
    exact ⟨_, parent, job, hm, hp, texts, htexts, text, hr⟩
  · cases hwriting

end CourseSite
