/-
  What the children of an aggregate page leave for the last of them.

  * `Workspace.fragments`: the texts left at the barrier of a node, by place.
  * `Build.Gathers`: every fragment is the text of a document below the node, every
    document past the stage has left its text, and the page that gathers them has met
    all its earlier siblings.
  * `gathers_of_history`: this holds at every point of every history; in particular, a
    page at work carries what `Build.Carries` says.
-/
import CourseSite.Proofs.Site.Carrying
import CourseSite.Proofs.Site.Progress

namespace CourseSite

open Barrier

namespace Workspace

/-- The texts that the children of a node have left, by place. -/
def fragments (workspace : Workspace) (p : Nat) : List (Nat × String) :=
  (workspace.barriers[p]?.map (·.fragments)).getD []

variable (workspace : Workspace) (node : Node)

theorem fragments_arrive (success : Bool) (p : Nat) :
    (workspace.changeBarrier node (·.arrive node.position success)).fragments p =
      workspace.fragments p := by
  unfold fragments
  rw [getElem?_changeBarrier]
  split
  · cases workspace.barriers[p]? <;> rfl
  · rfl

theorem fragments_insertFragment (text : String) (p : Nat) :
    (workspace.changeBarrier node (·.insertFragment node.position text)).fragments p =
      if node.parent = some p ∧ workspace.barriers[p]?.isSome = true then
        putFragment node.position text (workspace.fragments p)
      else workspace.fragments p := by
  unfold fragments
  rw [getElem?_changeBarrier]
  by_cases hp : node.parent = some p <;> cases workspace.barriers[p]? <;> simp [hp, insertFragment]

end Workspace

/-- A page has left its text for its siblings. -/
def BuildState.Stored (state : BuildState) (node : Node) : Prop :=
  ∃ p text, node.parent = some p ∧ (node.position, text) ∈ state.workspace.fragments p

/-- A page is past the point where texts are left. -/
def BuildState.HasLeft (state : BuildState) (build : Build) (node : Node) : Prop :=
  state.workspace.arrival? node = some .done ∨
    ∃ activity ∈ state.workers, activity.node? = some node ∧ activity.HasPassed build 4

section
variable {build : Build} {renderer : Renderer} {fileName separator : String}

/-! ## Fragments and turns -/

/-- A page leaves its text only in one move. -/
theorem Stride.fragments {point : Waypoint} {job : Job} {activity : Activity} {ws ws' : Workspace}
    (h : Stride build renderer fileName separator point job ws activity ws') :
    (∀ p, ws'.fragments p = ws.fragments p) ∨
      (point = .contributing ∧ (Stage.gatherer? build.site job).isSome = true ∧
        ws' = ws.changeBarrier job.node (·.insertFragment job.node.position job.text)) := by
  cases h with
  | contribute hg | lead hg => exact Or.inr ⟨rfl, by rw [hg]; rfl, rfl⟩
  | _ => exact Or.inl fun _ => rfl

theorem Turn.fragments {state shared : BuildState} {activity activity' : Activity}
    (h : Turn build renderer fileName separator state activity activity' shared) :
    (∀ p, shared.workspace.fragments p = state.workspace.fragments p) ∨
      ∃ job, activity = .working job (build.movesFrom .contributing) ∧
        (Stage.gatherer? build.site job).isSome = true ∧
        shared.workspace =
          state.workspace.changeBarrier job.node (·.insertFragment job.node.position job.text) := by
  cases h with
  | arrive | fall => exact Or.inl fun p => state.workspace.fragments_arrive _ _ p
  | work hs =>
    rcases hs.fragments with h | ⟨rfl, hg, hw⟩
    · exact Or.inl h
    · exact Or.inr ⟨_, rfl, hg, hw⟩
  | _ => exact Or.inl fun _ => rfl

/-- A text that was left stays, or its page leaves another one. -/
theorem stored_of_turn {state shared : BuildState} {worker : Nat} {activity activity' : Activity}
    {node : Node} (h : Turn build renderer fileName separator state activity activity' shared)
    (hs : state.Stored node) : (Build.afterTurn state shared worker activity').Stored node := by
  show shared.Stored node
  obtain ⟨p, text, hp, hm⟩ := hs
  rcases h.fragments with h | ⟨job, -, -, hw⟩
  · exact ⟨p, text, hp, by rw [h]; exact hm⟩
  · simp only [BuildState.Stored, hw, Workspace.fragments_insertFragment]
    by_cases hin : job.node.parent = some p ∧ state.workspace.barriers[p]?.isSome = true
    · by_cases hk : node.position = job.node.position
      · exact ⟨p, job.text, hp, by rw [if_pos hin, hk]; exact mem_putFragment_self ..⟩
      · exact ⟨p, text, hp, by rw [if_pos hin]; exact mem_putFragment_of_ne hk hm⟩
    · exact ⟨p, text, hp, by rw [if_neg hin]; exact hm⟩

/-! ## Arrivals and turns -/

/-- A page that has arrived stays so. -/
theorem arrival?_of_turn (numbered : build.site.tree.Numbered) {state shared : BuildState}
    {worker : Nat} {activity activity' : Activity} {node : Node}
    (d : build.Dispatched state) (ha : state.workers[worker]? = some activity)
    (h : Turn build renderer fileName separator state activity activity' shared)
    {arrival : Arrival} (hnode : build.site.tree.node? node.id = some node)
    (harrival : state.workspace.arrival? node = some arrival) (hne : arrival ≠ .pending) :
    (Build.afterTurn state shared worker activity').workspace.arrival? node = some arrival := by
  show shared.workspace.arrival? node = some arrival
  cases h.effect with
  | stay _ _ harr | take _ _ _ _ harr => rw [harr]; exact harrival
  | @arrive left success _ _ _ hn _ hs =>
    subst hs
    rw [Build.arrive, Workspace.arrival?_arrive]
    split
    · rename_i hplace
      cases hp : node.parent with
      | none => simp [Workspace.arrival?, hp] at harrival
      | some p =>
        have hleft := (d.held ha hn).1
        have hpl : left.parent = some p := hplace.1 ▸ hp
        have heq := numbered.eq_of_place hnode hleft hp hpl hplace.2
        rw [heq, d.pending hleft hpl (Or.inr (Build.holds_iff.2 ⟨_, _, ha, hn⟩))] at harrival
        cases harrival; exact absurd rfl hne
    · exact harrival

/-- A page arrives well only at the hand of a worker. -/
theorem done_of_done_turn (numbered : build.site.tree.Numbered) {state shared : BuildState}
    {worker : Nat} {activity activity' : Activity} {node : Node}
    (d : build.Dispatched state) (ha : state.workers[worker]? = some activity)
    (h : Turn build renderer fileName separator state activity activity' shared)
    (hnode : build.site.tree.node? node.id = some node)
    (hdone : shared.workspace.arrival? node = some .done) :
    state.workspace.arrival? node = some .done ∨ activity = .arriving node true := by
  have arrives {left : Node} {success : Bool} (hleft : activity.node? = some left)
      (hs : shared = Build.arrive left success state) :
      state.workspace.arrival? node = some .done ∨ (success = true ∧ left = node) := by
    rw [hs, Build.arrive, Workspace.arrival?_arrive] at hdone
    split at hdone
    · rename_i hplace
      obtain ⟨_, harr, hsuccess⟩ := Option.map_eq_some_iff.1 hdone
      cases hp : node.parent with
      | none => simp [Workspace.arrival?, hp] at harr
      | some p =>
        have := numbered.eq_of_place hnode (d.held ha hleft).1 hp (hplace.1 ▸ hp) hplace.2
        cases success with
        | true => exact Or.inr ⟨rfl, this.symm⟩
        | false => cases hsuccess
    · exact Or.inl hdone
  cases h with
  | arrive =>
    rcases arrives rfl rfl with h | ⟨rfl, rfl⟩
    · exact Or.inl h
    · exact Or.inr rfl
  | fall =>
    rcases arrives rfl rfl with h | ⟨h, -⟩
    · exact Or.inl h
    · cases h
  | work hs => exact Or.inl (hs.arrival?_eq node ▸ hdone)
  | _ => exact Or.inl hdone

/-- A page that finds its siblings ready has met all those before it. -/
theorem done_of_standing_ready (numbered : build.site.tree.Numbered) {state : BuildState}
    (d : build.Dispatched state) {worker : Nat} {node sibling : Node} {activity : Activity}
    {text : String} (ha : state.workers[worker]? = some activity) (hn : activity.node? = some node)
    (hs : build.site.tree.Precedes sibling node)
    (h : state.workspace.standing (.whole build.site node text) = .ready) :
    state.workspace.arrival? sibling = some .done := by
  obtain ⟨hnode, hlt⟩ := d.held ha hn
  have hsib := Build.lt_of_precedes numbered hnode hs
  cases hp : node.parent with
  | none =>
    have h₀ := (numbered.parent_eq_none_iff hnode).1 hp
    omega
  | some p =>
    have hsp : sibling.parent = some p := hs.2.1.trans hp
    have harr : state.workspace.arrival? sibling =
        state.workspace.barriers[p]?.bind (·.arrivals[sibling.position]?) := by
      simp [Workspace.arrival?, hsp]
    have hnone {arrival : Arrival} (ha : state.workspace.arrival? sibling = some arrival) :
        arrival ≠ .pending ∧ arrival ≠ .failed := by
      rw [harr] at ha
      obtain ⟨barrier, hb, ha⟩ := Option.bind_eq_some_iff.1 ha
      have hbar : state.workspace.barrier? (.whole build.site node text) = some barrier := by
        simp [Workspace.barrier?, Job.whole, Job.start, hp, hb]
      rw [Workspace.standing, hbar] at h
      obtain ⟨h₁, h₂⟩ := standing_eq_ready_iff.1 h _ hs.2.2
      exact ⟨fun he => h₁ (he ▸ ha), fun he => h₂ (he ▸ ha)⟩
    by_cases hh : state.Holds sibling
    · exact absurd rfl (hnone (d.pending hs.1 hsp (Or.inr hh))).1
    · obtain ⟨arrival, ha, -⟩ := d.arrived hs.1 hsp (by omega) hh
      obtain ⟨h₁, h₂⟩ := hnone ha
      cases arrival with
      | pending => exact absurd rfl h₁
      | failed => exact absurd rfl h₂
      | done => exact ha

end

namespace Build
variable {build : Build} {renderer : Renderer} {fileName separator : String}

/-! ## The invariant -/

/-- What the pages carry, and what they have left and met. -/
structure Gathers (build : Build) (renderer : Renderer) (fileName separator : String)
    (past : List BuildState) (state : BuildState) : Prop where
  carries : ∀ {job : Job} {point : Waypoint}, .working job (build.movesFrom point) ∈ state.workers →
    build.Carries renderer fileName separator (state :: past) point job
  met : ∀ {job : Job} {point : Waypoint}, .working job (build.movesFrom point) ∈ state.workers →
    5 ≤ point.index → (build.site.tree.gatherer? job.node).isSome = true →
    ∀ sibling, build.site.tree.Precedes sibling job.node →
      state.workspace.arrival? sibling = some .done
  ordered : ∀ p, Ordered (state.workspace.fragments p)
  sound : ∀ {p k : Nat} {text : String}, (k, text) ∈ state.workspace.fragments p →
    ∃ child, build.site.tree.node? child.id = some child ∧ child.parent = some p ∧
      child.position = k ∧ child.id < state.cursor ∧ build.Expanded (state :: past) child text
  complete : ∀ {child : Node}, build.site.tree.node? child.id = some child →
    (build.site.tree.gatherer? child).isSome = true → child.page.isVirtual = false →
    state.HasLeft build child → state.Stored child

theorem gathers_start (build : Build) (renderer : Renderer) (fileName separator : String)
    (workspace : Workspace) (cancelled : Bool) :
    build.Gathers renderer fileName separator [] (build.start workspace cancelled) := by
  have fresh (p : Nat) : (build.start workspace cancelled).workspace.fragments p = [] := by
    simp only [Workspace.fragments, start, Workspace.withFreshBarriers, List.getElem?_map]
    cases build.site.tree.nodes[p]? <;> rfl
  refine ⟨fun h => ?_, fun h => ?_, fun p => ?_, fun {p k text} h => ?_, fun {child} _ _ _ h => ?_⟩
  · cases eq_looking_of_mem_start h
  · cases eq_looking_of_mem_start h
  · rw [fresh]; exact .nil
  · rw [fresh] at h; cases h
  · rcases h with h | ⟨activity, hm, hn, -⟩
    · cases eq_pending_of_start h
    · cases eq_looking_of_mem_start hm; cases hn

section
variable {past : List BuildState} {state shared : BuildState} {worker : Nat}
  {activity activity' : Activity}

/-- When a page gathers the texts, all documents have left theirs. -/
theorem stored_of_gatherer (numbered : build.site.tree.Numbered)
    (known : build.Gathers renderer fileName separator past state) {job : Job} {point : Waypoint}
    {parent doc : Node} (hm : .working job (build.movesFrom point) ∈ state.workers)
    (hle : 5 ≤ point.index) (hg : build.site.tree.gatherer? job.node = some parent)
    (hlast : (build.site.tree.documents parent).getLast? = some job.node)
    (hd : doc ∈ build.site.tree.documents parent) : state.Stored doc := by
  obtain ⟨hparent, hagg⟩ := ContentTree.gatherer?_eq_some_iff.1 hg
  obtain ⟨hp, hparent⟩ := numbered.parent?_eq_some_iff.1 hparent
  obtain ⟨hdoc, hdp, hv⟩ := (numbered.mem_documents_iff hparent).1 hd
  have hgd : build.site.tree.gatherer? doc = some parent :=
    ContentTree.gatherer?_eq_some_iff.2 ⟨numbered.parent?_eq_some_iff.2 ⟨hdp, hparent⟩, hagg⟩
  refine known.complete hdoc (by rw [hgd]; rfl) hv ?_
  rcases numbered.eq_or_lt_of_mem_documents hparent hlast hd with rfl | hlt
  · exact Or.inr ⟨_, hm, rfl, point, rfl, by omega⟩
  · exact Or.inl (known.met hm hle (by rw [hg]; rfl) doc ⟨hdoc, hdp.trans hp.symm, hlt⟩)

/-- The page that goes on gathers the texts of all documents. -/
theorem composed_of_gathering (regular : build.Regular renderer fileName separator)
    (d : build.Dispatched state) (known : build.Gathers renderer fileName separator past state)
    {job : Job} {parent : Node}
    (hm : .working job (build.movesFrom .gathering) ∈ state.workers)
    (hg : build.site.tree.gatherer? job.node = some parent) :
    build.Composed fileName separator (state :: past)
      (job.gathered fileName separator parent (state.workspace.barrier? job)) := by
  have numbered := regular.numbered
  obtain ⟨worker, ha⟩ := List.mem_iff_getElem?.1 hm
  obtain ⟨node, text, rfl, hlast⟩ : ∃ node text, job = .whole build.site node text ∧
      (build.site.tree.documents parent).getLast? = some node := by
    cases known.carries hm with
    | waiting _ _ hl => exact ⟨_, _, rfl, hl parent hg⟩
    | rendered hp => exact absurd hp (by decide)
  replace hg : build.site.tree.gatherer? node = some parent := hg
  obtain ⟨hp, hparent⟩ :=
    numbered.parent?_eq_some_iff.1 (ContentTree.gatherer?_eq_some_iff.1 hg).1
  have hnode : build.site.tree.node? node.id = some node := (d.held ha rfl).1
  have hpend := d.pending hnode hp (Or.inr ⟨_, hm, rfl⟩)
  obtain ⟨barrier, hb⟩ : ∃ barrier, state.workspace.barriers[parent.id]? = some barrier := by
    rw [Workspace.arrival?, hp, Option.bind_some] at hpend
    obtain ⟨barrier, hb, -⟩ := Option.bind_eq_some_iff.1 hpend
    exact ⟨barrier, hb⟩
  have hbar : state.workspace.barrier? (.whole build.site node text) = some barrier := by
    simp [Workspace.barrier?, Job.whole, Job.start, hp, hb]
  have hfrag : state.workspace.fragments parent.id = barrier.fragments := by
    simp [Workspace.fragments, hb]
  rw [hbar, Job.gathered_whole]
  refine .combined hg hlast (forall₂_documents numbered hparent (hfrag ▸ known.ordered parent.id)
    (fun k t ht => ?_) fun doc hd => ?_)
  · obtain ⟨child, hchild, hcp, hpos, -, he⟩ := known.sound (hfrag ▸ ht)
    exact ⟨child, (numbered.mem_documents_iff hparent).2 ⟨hchild, hcp, he.document⟩, hpos, he⟩
  · obtain ⟨p, t, hdp, ht⟩ := stored_of_gatherer numbered known hm (by decide) hg hlast hd
    rw [((numbered.mem_documents_iff hparent).1 hd).2.1] at hdp; cases hdp
    exact ⟨t, hfrag ▸ ht⟩

theorem carries_of_turn (regular : build.Regular renderer fileName separator)
    (d : build.Dispatched state) (known : build.Gathers renderer fileName separator past state)
    (ha : state.workers[worker]? = some activity) {job : Job} {point : Waypoint}
    (turn : Turn build renderer fileName separator state activity
      (.working job (build.movesFrom point)) shared) :
    build.Carries renderer fileName separator
      (afterTurn state shared worker (.working job (build.movesFrom point)) :: state :: past)
      point job := by
  generalize hmoves : build.movesFrom point = moves at turn
  have hm := List.mem_of_getElem? ha
  cases turn with
  | take =>
    rw [movesFrom_injective regular.standard hmoves]
    exact .reading
  | @work _ _ _ ws hs =>
    subst hmoves
    have hself : .working job (build.movesFrom point) ∈
        (afterTurn state { state with workspace := ws } worker
          (.working job (build.movesFrom point))).workers := mem_afterTurn_self ha
    obtain ⟨point', hmoves, hc⟩ := hs.carries regular.numbered (d.held ha rfl).1
      (known.carries hm) (fun parent hp hg => composed_of_gathering regular d known (hp ▸ hm) hg)
      hself
    rw [movesFrom_injective regular.standard hmoves] at hc ⊢
    exact hc

/-- The page that goes on has met its siblings when it gathers their texts. -/
theorem met_of_turn (regular : build.Regular renderer fileName separator)
    (d : build.Dispatched state) (known : build.Gathers renderer fileName separator past state)
    (ha : state.workers[worker]? = some activity) {job : Job} {point : Waypoint}
    (turn : Turn build renderer fileName separator state activity
      (.working job (build.movesFrom point)) shared) (hle : 5 ≤ point.index)
    (hg : (build.site.tree.gatherer? job.node).isSome = true) (sibling : Node)
    (hs : build.site.tree.Precedes sibling job.node) :
    state.workspace.arrival? sibling = some .done := by
  generalize hmoves : build.movesFrom point = moves at turn
  have hm := List.mem_of_getElem? ha
  cases turn with
  | take =>
    rw [movesFrom_injective regular.standard hmoves] at hle
    exact absurd hle (by decide)
  | @work point₀ job₀ _ ws stride =>
    have hn : job.node = job₀.node := Option.some.inj stride.node?_eq
    rw [hn] at hg hs
    by_cases hle₀ : 5 ≤ point₀.index
    · exact known.met hm hle₀ hg sibling hs
    · have hc := known.carries hm
      subst hmoves
      generalize hmoves : build.movesFrom point = moves at stride
      cases stride with
      | pass hnone =>
        rw [← hc.gatherer?_eq (by decide), hnone] at hg; cases hg
      | meet _ hready =>
        cases hc with
        | waiting => exact done_of_standing_ready regular.numbered d ha rfl hs hready
        | rendered hp => exact absurd hp (by decide)
      | read | keep | expand | alone | lead =>
        rw [movesFrom_injective regular.standard hmoves] at hle
        exact absurd hle (by decide)
      | _ => exact absurd (by decide) hle₀

theorem ordered_of_turn (known : build.Gathers renderer fileName separator past state)
    (turn : Turn build renderer fileName separator state activity activity' shared) (p : Nat) :
    Ordered ((afterTurn state shared worker activity').workspace.fragments p) := by
  show Ordered (shared.workspace.fragments p)
  rcases turn.fragments with h | ⟨job, -, -, hw⟩
  · rw [h]; exact known.ordered p
  · rw [hw, Workspace.fragments_insertFragment]
    split
    · exact ordered_putFragment (known.ordered p)
    · exact known.ordered p

theorem sound_of_turn (d : build.Dispatched state)
    (known : build.Gathers renderer fileName separator past state)
    (ha : state.workers[worker]? = some activity)
    (turn : Turn build renderer fileName separator state activity activity' shared)
    {p k : Nat} {text : String}
    (h : (k, text) ∈ (afterTurn state shared worker activity').workspace.fragments p) :
    ∃ child, build.site.tree.node? child.id = some child ∧ child.parent = some p ∧
      child.position = k ∧ child.id < state.cursor ∧ build.Expanded (state :: past) child text := by
  replace h : (k, text) ∈ shared.workspace.fragments p := h
  rcases turn.fragments with hsame | ⟨job, rfl, -, hw⟩
  · rw [hsame] at h; exact known.sound h
  rw [hw, Workspace.fragments_insertFragment] at h
  split at h
  · rename_i hin
    rcases mem_putFragment h with ⟨rfl, rfl⟩ | h
    · obtain ⟨hnode, hlt⟩ := d.held ha rfl
      refine ⟨job.node, hnode, hin.1, rfl, hlt, ?_⟩
      cases known.carries (List.mem_of_getElem? ha) with
      | contributing he => exact he
      | waiting hp => rcases hp with hp | hp <;> cases hp
      | rendered hp => exact absurd hp (by decide)
    · exact known.sound h
  · exact known.sound h

/-- A page that leaves its text does so at the barrier of its parent. -/
theorem stored_of_insertFragment (d : build.Dispatched state) {job : Job}
    (ha : state.workers[worker]? = some activity) (hn : activity.node? = some job.node)
    (hg : (build.site.tree.gatherer? job.node).isSome = true)
    (hw : shared.workspace =
      state.workspace.changeBarrier job.node (·.insertFragment job.node.position job.text)) :
    shared.Stored job.node := by
  obtain ⟨parent, hparent⟩ := Option.isSome_iff_exists.1 hg
  obtain ⟨p, hp, -⟩ := Option.bind_eq_some_iff.1 (ContentTree.gatherer?_eq_some_iff.1 hparent).1
  have hpend := d.pending (d.held ha hn).1 hp (Or.inr (holds_iff.2 ⟨_, _, ha, hn⟩))
  rw [Workspace.arrival?, hp, Option.bind_some] at hpend
  obtain ⟨barrier, hb, -⟩ := Option.bind_eq_some_iff.1 hpend
  refine ⟨p, job.text, hp, ?_⟩
  rw [hw, Workspace.fragments_insertFragment, if_pos ⟨hp, by rw [hb]; rfl⟩]
  exact mem_putFragment_self ..

theorem complete_of_turn (regular : build.Regular renderer fileName separator)
    (d : build.Dispatched state) (known : build.Gathers renderer fileName separator past state)
    (ha : state.workers[worker]? = some activity)
    (turn : Turn build renderer fileName separator state activity activity' shared) {child : Node}
    (hchild : build.site.tree.node? child.id = some child)
    (hg : (build.site.tree.gatherer? child).isSome = true) (hv : child.page.isVirtual = false)
    (h : (afterTurn state shared worker activity').HasLeft build child) :
    (afterTurn state shared worker activity').Stored child := by
  have hm := List.mem_of_getElem? ha
  have before (hl : state.HasLeft build child) :
      (afterTurn state shared worker activity').Stored child :=
    stored_of_turn turn (known.complete hchild hg hv hl)
  rcases h with h | ⟨b, hb, hn, hl⟩
  · rcases done_of_done_turn regular.numbered d ha turn hchild h with h | rfl
    · exact before (Or.inl h)
    · exact before (Or.inr ⟨_, hm, rfl, rfl⟩)
  rcases mem_afterTurn hb with hb | rfl
  · exact before (Or.inr ⟨b, hb, hn, hl⟩)
  rcases hasPassed_of_turn regular.standard (by decide) turn hl with
    ⟨hn', hl'⟩ | ⟨point, job, ws, rfl, hlt, stride, rfl⟩
  · exact before (Or.inr ⟨_, hm, hn'.trans hn, hl'⟩)
  have late {job : Job} {point : Waypoint} (hlt : point.index < 4)
      (hl : (Activity.working job (build.movesFrom point)).HasPassed build 4) : False := by
    have := (hasPassed_working_iff regular.standard).1 hl
    omega
  have hcarries := known.carries hm
  cases stride with
  | read | keep | expand => exact (late (by decide) hl).elim
  | leave hvirtual => cases hn; rw [hv] at hvirtual; cases hvirtual
  | contribute | lead => cases hn; exact stored_of_insertFragment d ha rfl hg rfl
  | alone hnone =>
    cases hn
    rw [← hcarries.gatherer?_eq (by decide), hnone] at hg; cases hg
  | unread | unexpanded | expansionCrash => exact hl.elim
  | _ => exact absurd hlt (by decide)

theorem cursor_le_of_turn
    (turn : Turn build renderer fileName separator state activity activity' shared) :
    state.cursor ≤ (afterTurn state shared worker activity').cursor := by
  cases turn with
  | take | miss => exact Nat.le_succ _
  | _ => exact Nat.le_refl _

theorem Gathers.turn (regular : build.Regular renderer fileName separator)
    (d : build.Dispatched state) (known : build.Gathers renderer fileName separator past state)
    (ha : state.workers[worker]? = some activity)
    (turn : Turn build renderer fileName separator state activity activity' shared) :
    build.Gathers renderer fileName separator (state :: past)
      (afterTurn state shared worker activity') := by
  have sub : state :: past ⊆ afterTurn state shared worker activity' :: state :: past :=
    List.subset_cons_self ..
  refine ⟨fun {job point} h => ?_, fun {job point} h hle hg sibling hs => ?_,
    ordered_of_turn known turn, fun h => ?_,
    complete_of_turn regular d known ha turn⟩
  · rcases mem_afterTurn h with h | rfl
    · exact (known.carries h).mono sub
    · exact carries_of_turn regular d known ha turn
  · refine arrival?_of_turn regular.numbered d ha turn hs.1 ?_ nofun
    rcases mem_afterTurn h with h | rfl
    · exact known.met h hle hg sibling hs
    · exact met_of_turn regular d known ha turn hle hg sibling hs
  · obtain ⟨child, hchild, hp, hpos, hlt, he⟩ := sound_of_turn d known ha turn h
    exact ⟨child, hchild, hp, hpos, Nat.lt_of_lt_of_le hlt (cursor_le_of_turn turn), he.mono sub⟩

end

/-- **Gathering.** At every point of a history the pages carry, have left and have met
    what they should. -/
theorem gathers_of_history (regular : build.Regular renderer fileName separator)
    {workspace : Workspace} {cancelled : Bool} {past : List BuildState} {state : BuildState}
    (h : build.History (build.start workspace cancelled) (state :: past)) :
    build.Gathers renderer fileName separator past state := by
  refine History.turns (P := build.Gathers renderer fileName separator) regular
    (gathers_start build renderer fileName separator workspace cancelled) ?_ ?_ h
  · intro past s worker a a' shared history known ha turn
    exact known.turn regular (dispatched_of_history regular history) ha turn
  · intro past s _ known _
    have sub : s :: past ⊆ Build.cancel s :: s :: past := List.subset_cons_self ..
    refine ⟨fun h => (known.carries h).mono sub, known.met, known.ordered, fun h => ?_,
      known.complete⟩
    obtain ⟨child, hchild, hp, hpos, hlt, he⟩ := known.sound h
    exact ⟨child, hchild, hp, hpos, hlt, he.mono sub⟩

end Build

end CourseSite
