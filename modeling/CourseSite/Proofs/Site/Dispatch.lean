/-
  Which pages are taken, by whom, and which of them have arrived.

  * `Workspace.arrival?`: how far a page has come, as the barrier of its parent has it.
  * `Effect`: what a turn does to the page in hand, to the cursor and to the arrivals.
  * `Build.Dispatched`: a page in hand was taken, and no two workers have one page in
    hand; a page that was not taken or is in hand has not arrived, any other has.
  * `dispatched_of_history`: this holds at every point of every history.
-/
import CourseSite.Proofs.Site.Barrier
import CourseSite.Proofs.Site.Turn

namespace CourseSite

/-! ## Arrivals -/

namespace Workspace

/-- How far a page has come, as the barrier of its parent has it. -/
def arrival? (workspace : Workspace) (node : Node) : Option Arrival :=
  node.parent.bind fun p => workspace.barriers[p]?.bind (·.arrivals[node.position]?)

theorem getElem?_changeBarrier (workspace : Workspace) (node : Node) (change : Barrier → Barrier)
    (p : Nat) :
    (workspace.changeBarrier node change).barriers[p]? =
      if node.parent = some p then (workspace.barriers[p]?).map change
      else workspace.barriers[p]? := by
  unfold changeBarrier
  cases node.parent with
  | none => simp
  | some id => simp only [List.getElem?_modify, Option.some.injEq]; split <;> simp

theorem arrival?_arrive (workspace : Workspace) (node other : Node) (success : Bool) :
    (workspace.changeBarrier node (·.arrive node.position success)).arrival? other =
      if other.parent = node.parent ∧ other.position = node.position then
        (workspace.arrival? other).map fun _ => if success then .done else .failed
      else workspace.arrival? other := by
  unfold arrival?
  cases hp : other.parent with
  | none => simp
  | some p =>
    simp only [Option.bind_some, getElem?_changeBarrier, eq_comm (a := some p)]
    by_cases hn : node.parent = some p
    · rw [if_pos hn]
      cases workspace.barriers[p]? with
      | none => simp
      | some barrier =>
        simp only [Option.map_some, Option.bind_some, Barrier.getElem?_arrive, hn, true_and]
    · rw [if_neg hn, if_neg (fun h => hn h.1)]

theorem arrival?_insertFragment (workspace : Workspace) (node other : Node) (position : Nat)
    (text : String) :
    (workspace.changeBarrier node (·.insertFragment position text)).arrival? other =
      workspace.arrival? other := by
  unfold arrival?
  cases other.parent with
  | none => rfl
  | some p =>
    simp only [Option.bind_some, getElem?_changeBarrier]
    split
    · cases workspace.barriers[p]? <;> rfl
    · rfl

end Workspace

section
variable {build : Build} {renderer : Renderer} {fileName separator : String}

/-- A move keeps the page in the hand of its worker. -/
theorem Stride.node?_eq {point : Waypoint} {job : Job} {activity : Activity} {ws ws' : Workspace}
    (h : Stride build renderer fileName separator point job ws activity ws') :
    activity.node? = some job.node := by
  cases h <;> rfl

/-- No move counts as an arrival. -/
theorem Stride.arrival?_eq {point : Waypoint} {job : Job} {activity : Activity}
    {ws ws' : Workspace} (h : Stride build renderer fileName separator point job ws activity ws')
    (node : Node) : ws'.arrival? node = ws.arrival? node := by
  cases h with
  | contribute | lead => exact ws.arrival?_insertFragment ..
  | _ => rfl

/-- What a turn does to the page in hand, to the cursor and to the arrivals. -/
inductive Effect (build : Build) (state : BuildState) : Activity → Activity → BuildState → Prop
  | stay {activity activity' shared} : activity'.node? = activity.node? →
      shared.cursor = state.cursor ∨
        build.site.tree.size ≤ state.cursor ∧ shared.cursor = state.cursor + 1 →
      (∀ node, shared.workspace.arrival? node = state.workspace.arrival? node) →
      Effect build state activity activity' shared
  | take {node activity activity' shared} : build.site.tree.node? state.cursor = some node →
      activity.node? = none → activity'.node? = some node → shared.cursor = state.cursor + 1 →
      (∀ node, shared.workspace.arrival? node = state.workspace.arrival? node) →
      Effect build state activity activity' shared
  | arrive {node success activity activity' shared} : activity.node? = some node →
      activity'.node? = none → shared = Build.arrive node success state →
      Effect build state activity activity' shared

theorem Turn.effect {state shared : BuildState} {activity activity' : Activity}
    (h : Turn build renderer fileName separator state activity activity' shared) :
    Effect build state activity activity' shared := by
  cases h with
  | take hn => exact .take hn rfl rfl rfl fun _ => rfl
  | miss hc => exact .stay rfl (Or.inr ⟨hc, rfl⟩) fun _ => rfl
  | work hs => exact .stay hs.node?_eq (Or.inl rfl) hs.arrival?_eq
  | arrive => exact .arrive rfl rfl rfl
  | fall => exact .arrive rfl rfl rfl
  | _ => exact .stay rfl (Or.inl rfl) fun _ => rfl

end

/-! ## Dispatch -/

/-- The page was taken: the walk through the tree comes to it before the cursor. -/
def BuildState.Taken (state : BuildState) (build : Build) (node : Node) : Prop :=
  node.id ∈ build.site.tree.preorder.take state.cursor

namespace Build
variable {build : Build} {renderer : Renderer} {fileName separator : String}

/-- Where the pages are. -/
structure Dispatched (build : Build) (state : BuildState) : Prop where
  crew : state.workers.length = build.crew
  held : ∀ {worker : Nat} {activity : Activity} {node : Node},
    state.workers[worker]? = some activity → activity.node? = some node →
    build.site.tree.node? node.id = some node ∧ node.id < state.cursor
  apart : ∀ {worker worker' : Nat} {activity activity' : Activity} {node : Node},
    state.workers[worker]? = some activity → state.workers[worker']? = some activity' →
    activity.node? = some node → activity'.node? = some node → worker = worker'
  pending : ∀ {node : Node} {p : Nat}, build.site.tree.node? node.id = some node →
    node.parent = some p → state.cursor ≤ node.id ∨ state.Holds node →
    state.workspace.arrival? node = some .pending
  arrived : ∀ {node : Node} {p : Nat}, build.site.tree.node? node.id = some node →
    node.parent = some p → node.id < state.cursor → ¬ state.Holds node →
    ∃ arrival, state.workspace.arrival? node = some arrival ∧ arrival ≠ .pending

theorem taken_iff (numbered : build.site.tree.Numbered) {state : BuildState} {node : Node}
    (hnode : build.site.tree.node? node.id = some node) :
    state.Taken build node ↔ node.id < state.cursor := by
  have := ContentTree.lt_size_of_node? hnode
  rw [BuildState.Taken, numbered.preorder_eq, List.take_range, List.mem_range]
  omega

theorem getElem?_afterTurn {state shared : BuildState} {worker : Nat} {activity activity' : Activity}
    (ha : state.workers[worker]? = some activity) (worker' : Nat) :
    (afterTurn state shared worker activity').workers[worker']? =
      if worker' = worker then some activity' else state.workers[worker']? := by
  have hlt := (List.getElem?_eq_some_iff.1 ha).1
  simp only [afterTurn, List.getElem?_set, eq_comm (a := worker), hlt, if_true]

theorem holds_iff {state : BuildState} {node : Node} :
    state.Holds node ↔
      ∃ (worker : Nat) (activity : Activity), state.workers[worker]? = some activity ∧
        activity.node? = some node := by
  simp only [BuildState.Holds, List.mem_iff_getElem?]
  constructor
  · rintro ⟨activity, ⟨worker, hw⟩, hn⟩; exact ⟨worker, activity, hw, hn⟩
  · rintro ⟨worker, activity, hw, hn⟩; exact ⟨activity, ⟨worker, hw⟩, hn⟩

/-- Who has a page in hand after a turn. -/
theorem holds_afterTurn_iff {state shared : BuildState} {worker : Nat}
    {activity activity' : Activity} (ha : state.workers[worker]? = some activity) {node : Node} :
    (afterTurn state shared worker activity').Holds node ↔ activity'.node? = some node ∨
      ∃ (other : Nat) (b : Activity), other ≠ worker ∧ state.workers[other]? = some b ∧
        b.node? = some node := by
  rw [holds_iff]
  constructor
  · rintro ⟨other, b, hb, hn⟩
    rw [getElem?_afterTurn ha] at hb
    split at hb
    · cases hb; exact Or.inl hn
    · exact Or.inr ⟨other, b, ‹_›, hb, hn⟩
  · rintro (hn | ⟨other, b, hne, hb, hn⟩)
    · exact ⟨worker, activity', by rw [getElem?_afterTurn ha, if_pos rfl], hn⟩
    · exact ⟨other, b, by rw [getElem?_afterTurn ha, if_neg hne]; exact hb, hn⟩

/-- At the start no page has arrived. -/
theorem eq_pending_of_start {workspace : Workspace} {cancelled : Bool} {node : Node}
    {arrival : Arrival}
    (h : (build.start workspace cancelled).workspace.arrival? node = some arrival) :
    arrival = .pending := by
  unfold Workspace.arrival? at h
  obtain ⟨p, -, h⟩ := Option.bind_eq_some_iff.1 h
  obtain ⟨barrier, hb, h⟩ := Option.bind_eq_some_iff.1 h
  simp only [start, Workspace.withFreshBarriers, List.getElem?_map, Option.map_eq_some_iff] at hb
  obtain ⟨parent, -, rfl⟩ := hb
  rw [Barrier.getElem?_ofCount] at h
  split at h <;> cases h
  rfl

theorem dispatched_start (build : Build) (numbered : build.site.tree.Numbered)
    (workspace : Workspace) (cancelled : Bool) : build.Dispatched (build.start workspace cancelled) := by
  refine ⟨List.length_replicate, fun h hn => ?_, fun h _ hn _ => ?_, fun {node p} h hp _ => ?_,
    fun _ _ hlt => absurd hlt (Nat.not_lt_zero _)⟩
  · rw [eq_looking_of_mem_start (List.mem_of_getElem? h)] at hn; cases hn
  · rw [eq_looking_of_mem_start (List.mem_of_getElem? h)] at hn; cases hn
  · obtain ⟨-, parent, hparent, hc⟩ := numbered.listed h hp
    have hb : (build.start workspace cancelled).workspace.barriers[p]? =
        some (Barrier.ofCount parent.children.length) := by
      simp only [start, Workspace.withFreshBarriers, List.getElem?_map]
      rw [show build.site.tree.nodes[p]? = some parent from hparent]; rfl
    have hlt := (List.getElem?_eq_some_iff.1 hc).1
    simp only [Workspace.arrival?, hp, Option.bind_some, hb, Barrier.getElem?_ofCount, if_pos hlt]

section
variable {state shared : BuildState} {worker : Nat} {activity activity' : Activity}

/-- A worker that keeps its page in hand. -/
theorem holds_afterTurn_of_stay (ha : state.workers[worker]? = some activity)
    (hn : activity'.node? = activity.node?) {node : Node} :
    (afterTurn state shared worker activity').Holds node ↔ state.Holds node := by
  rw [holds_afterTurn_iff ha, holds_iff]
  constructor
  · rintro (h | ⟨other, b, -, hb, hbn⟩)
    · exact ⟨worker, activity, ha, hn ▸ h⟩
    · exact ⟨other, b, hb, hbn⟩
  · rintro ⟨other, b, hb, hbn⟩
    by_cases hw : other = worker
    · subst hw; rw [ha] at hb; cases hb; exact Or.inl (hn ▸ hbn)
    · exact Or.inr ⟨other, b, hw, hb, hbn⟩

/-- A worker that takes its next page. -/
theorem holds_afterTurn_of_take (ha : state.workers[worker]? = some activity) {taken : Node}
    (hn : activity.node? = none) (hn' : activity'.node? = some taken) {node : Node} :
    (afterTurn state shared worker activity').Holds node ↔ node = taken ∨ state.Holds node := by
  rw [holds_afterTurn_iff ha, holds_iff, hn', Option.some.injEq, eq_comm (a := taken)]
  refine or_congr Iff.rfl ⟨?_, ?_⟩
  · rintro ⟨other, b, -, hb, hbn⟩; exact ⟨other, b, hb, hbn⟩
  · rintro ⟨other, b, hb, hbn⟩
    refine ⟨other, b, fun hw => ?_, hb, hbn⟩
    subst hw; rw [ha] at hb; cases hb; rw [hn] at hbn; cases hbn

/-- A worker that lets its page go. -/
theorem Dispatched.holds_afterTurn_of_arrive (d : build.Dispatched state)
    (ha : state.workers[worker]? = some activity) {left : Node} (hn : activity.node? = some left)
    (hn' : activity'.node? = none) {node : Node} :
    (afterTurn state shared worker activity').Holds node ↔ node ≠ left ∧ state.Holds node := by
  rw [holds_afterTurn_iff ha, holds_iff, hn']
  constructor
  · rintro (h | ⟨other, b, hw, hb, hbn⟩)
    · cases h
    · exact ⟨fun he => hw (d.apart hb ha (he ▸ hbn) hn), other, b, hb, hbn⟩
  · rintro ⟨hne, other, b, hb, hbn⟩
    refine Or.inr ⟨other, b, fun hw => hne ?_, hb, hbn⟩
    subst hw; rw [ha] at hb; cases hb; rw [hn] at hbn; cases hbn; rfl

theorem Dispatched.stay (d : build.Dispatched state) (ha : state.workers[worker]? = some activity)
    (hn : activity'.node? = activity.node?)
    (hc : shared.cursor = state.cursor ∨
      build.site.tree.size ≤ state.cursor ∧ shared.cursor = state.cursor + 1)
    (harr : ∀ node, shared.workspace.arrival? node = state.workspace.arrival? node) :
    build.Dispatched (afterTurn state shared worker activity') := by
  have before {other : Nat} {b : Activity} {node : Node}
      (hb : (afterTurn state shared worker activity').workers[other]? = some b)
      (hbn : b.node? = some node) :
      ∃ b' : Activity, state.workers[other]? = some b' ∧ b'.node? = some node := by
    rw [getElem?_afterTurn ha] at hb
    split at hb
    · rename_i hw; subst hw; cases hb; exact ⟨_, ha, hn ▸ hbn⟩
    · exact ⟨b, hb, hbn⟩
  refine ⟨?_, ?_, ?_, ?_, ?_⟩
  · rw [afterTurn, List.length_set, d.crew]
  · intro other b node hb hbn
    obtain ⟨b', hb', hbn'⟩ := before hb hbn
    obtain ⟨h₁, h₂⟩ := d.held hb' hbn'
    exact ⟨h₁, by simp only [afterTurn]; omega⟩
  · intro other other' b b' node hb hb' hbn hbn'
    obtain ⟨c, hc, hcn⟩ := before hb hbn
    obtain ⟨c', hc', hcn'⟩ := before hb' hbn'
    exact d.apart hc hc' hcn hcn'
  · intro node p hnode hp h
    rw [holds_afterTurn_of_stay ha hn] at h
    refine (harr node).trans (d.pending hnode hp (h.imp (fun hle => ?_) id))
    simp only [afterTurn] at hle; omega
  · intro node p hnode hp hlt hh
    rw [holds_afterTurn_of_stay ha hn] at hh
    have hsize := ContentTree.lt_size_of_node? hnode
    simp only [afterTurn] at hlt
    obtain ⟨arrival, h₁, h₂⟩ := d.arrived hnode hp (by omega) hh
    exact ⟨arrival, (harr node).trans h₁, h₂⟩

theorem Dispatched.take (d : build.Dispatched state) (numbered : build.site.tree.Numbered)
    (ha : state.workers[worker]? = some activity) {taken : Node}
    (htaken : build.site.tree.node? state.cursor = some taken)
    (hn : activity.node? = none) (hn' : activity'.node? = some taken)
    (hc : shared.cursor = state.cursor + 1)
    (harr : ∀ node, shared.workspace.arrival? node = state.workspace.arrival? node) :
    build.Dispatched (afterTurn state shared worker activity') := by
  have hid := numbered.id_eq htaken
  have before {other : Nat} {b : Activity} {node : Node}
      (hb : (afterTurn state shared worker activity').workers[other]? = some b)
      (hbn : b.node? = some node) :
      (other = worker ∧ node = taken) ∨
        (state.workers[other]? = some b ∧ node.id < state.cursor) := by
    rw [getElem?_afterTurn ha] at hb
    split at hb
    · rename_i hw; cases hb; rw [hn'] at hbn; cases hbn; exact Or.inl ⟨hw, rfl⟩
    · exact Or.inr ⟨hb, (d.held hb hbn).2⟩
  refine ⟨?_, ?_, ?_, ?_, ?_⟩
  · rw [afterTurn, List.length_set, d.crew]
  · intro other b node hb hbn
    simp only [afterTurn, hc]
    rcases before hb hbn with ⟨-, rfl⟩ | ⟨hb, hlt⟩
    · exact ⟨numbered.node?_id htaken, by omega⟩
    · exact ⟨(d.held hb hbn).1, by omega⟩
  · intro other other' b b' node hb hb' hbn hbn'
    rcases before hb hbn with ⟨hw, rfl⟩ | ⟨hb, hlt⟩ <;>
      rcases before hb' hbn' with ⟨hw', heq⟩ | ⟨hb', hlt'⟩
    · rw [hw, hw']
    · omega
    · rw [heq] at hlt; omega
    · exact d.apart hb hb' hbn hbn'
  · intro node p hnode hp h
    rw [holds_afterTurn_of_take ha hn hn'] at h
    refine (harr node).trans (d.pending hnode hp ?_)
    rcases h with hle | rfl | hh
    · simp only [afterTurn, hc] at hle; exact Or.inl (by omega)
    · exact Or.inl (by omega)
    · exact Or.inr hh
  · intro node p hnode hp hlt hh
    simp only [afterTurn, hc] at hlt
    rw [holds_afterTurn_of_take ha hn hn', not_or] at hh
    have hne : node.id ≠ state.cursor := by
      intro he; rw [he, htaken] at hnode; cases hnode; exact hh.1 rfl
    obtain ⟨arrival, h₁, h₂⟩ := d.arrived hnode hp (by omega) hh.2
    exact ⟨arrival, (harr node).trans h₁, h₂⟩

theorem Dispatched.arrive (d : build.Dispatched state) (numbered : build.site.tree.Numbered)
    (ha : state.workers[worker]? = some activity) {left : Node} {success : Bool}
    (hn : activity.node? = some left) (hn' : activity'.node? = none) :
    build.Dispatched (afterTurn state (Build.arrive left success state) worker activity') := by
  obtain ⟨hleft, hlt'⟩ := d.held ha hn
  have before {other : Nat} {b : Activity} {node : Node}
      (hb : (afterTurn state (Build.arrive left success state) worker
        activity').workers[other]? = some b)
      (hbn : b.node? = some node) : state.workers[other]? = some b := by
    rw [getElem?_afterTurn ha] at hb
    split at hb
    · cases hb; rw [hn'] at hbn; cases hbn
    · exact hb
  -- The other pages have other places, so their arrivals stay as they are.
  have harr {node : Node} {p : Nat} (hnode : build.site.tree.node? node.id = some node)
      (hp : node.parent = some p) (hne : node ≠ left) :
      (Build.arrive left success state).workspace.arrival? node =
        state.workspace.arrival? node := by
    refine (state.workspace.arrival?_arrive left node success).trans (if_neg ?_)
    rintro ⟨h₁, h₂⟩
    exact hne (numbered.eq_of_place hnode hleft hp (h₁ ▸ hp) h₂)
  refine ⟨?_, ?_, ?_, ?_, ?_⟩
  · rw [afterTurn, List.length_set, d.crew]
  · intro other b node hb hbn; exact d.held (before hb hbn) hbn
  · intro other other' b b' node hb hb' hbn hbn'
    exact d.apart (before hb hbn) (before hb' hbn') hbn hbn'
  · intro node p hnode hp h
    rw [d.holds_afterTurn_of_arrive ha hn hn'] at h
    have hne : node ≠ left := by
      rintro rfl
      rcases h with hle | hh
      · exact absurd hlt' (Nat.not_lt.2 hle)
      · exact hh.1 rfl
    exact (harr hnode hp hne).trans (d.pending hnode hp (h.imp id And.right))
  · intro node p hnode hp hlt hh
    rw [d.holds_afterTurn_of_arrive ha hn hn', not_and] at hh
    by_cases he : node = left
    · subst he
      have hpend := d.pending hnode hp (Or.inr (holds_iff.2 ⟨worker, activity, ha, hn⟩))
      refine ⟨if success then .done else .failed,
        (state.workspace.arrival?_arrive node node success).trans ?_, by cases success <;> simp⟩
      rw [if_pos ⟨rfl, rfl⟩, hpend]; rfl
    · obtain ⟨arrival, h₁, h₂⟩ := d.arrived hnode hp hlt (hh he)
      exact ⟨arrival, (harr hnode hp he).trans h₁, h₂⟩

theorem Dispatched.turn (d : build.Dispatched state) (numbered : build.site.tree.Numbered)
    (ha : state.workers[worker]? = some activity)
    (effect : Effect build state activity activity' shared) :
    build.Dispatched (afterTurn state shared worker activity') := by
  cases effect with
  | stay hn hc harr => exact d.stay ha hn hc harr
  | take htaken hn hn' hc harr => exact d.take numbered ha htaken hn hn' hc harr
  | arrive hn hn' hs => subst hs; exact d.arrive numbered ha hn hn'

end

/-- **Dispatch.** At every point of a history the pages are where they should be. -/
theorem dispatched_of_history (regular : build.Regular renderer fileName separator)
    {workspace : Workspace} {cancelled : Bool} {past : List BuildState} {state : BuildState}
    (h : build.History (build.start workspace cancelled) (state :: past)) :
    build.Dispatched state := by
  refine History.turns (P := fun _ s => build.Dispatched s) regular
    (dispatched_start build regular.numbered workspace cancelled) ?_ ?_ h
  · intro past s worker a a' shared _ d ha turn
    exact d.turn regular.numbered ha turn.effect
  · intro past s _ d _
    exact ⟨d.crew, d.held, d.apart, d.pending, d.arrived⟩

end Build

end CourseSite
