/-
  What a build leaves behind, whatever the order of its steps.

  * `BuildState.HasPassed`: a page has some moves behind it, at work or at its end.
  * `Build.Published`: a page past its writing is in its file, one past its noting is
    noted, and nothing is noted of the pages that are not written.
  * `published_of_history`: this holds at every point of every history.
  * `completed_of_history`: hence what is there in the end depends on the plan alone.
-/
import CourseSite.Proofs.Site.Ledger
import CourseSite.Proofs.Site.Plan

namespace CourseSite

/-- The page has so many moves behind it: it is in hand past them, or was taken and is in
    hand no more, and nothing has failed so far. -/
def BuildState.HasPassed (state : BuildState) (build : Build) (count : Nat) (node : Node) : Prop :=
  (node.id < state.cursor ∧ ¬ state.Holds node ∧ ¬ state.Alarmed) ∨
    ∃ activity ∈ state.workers, activity.node? = some node ∧ activity.HasPassed build count

namespace Build
variable {build : Build} {renderer : Renderer} {fileName separator : String} {plan : Plan}
  {workspace : Workspace} {past : List BuildState} {state shared : BuildState} {worker : Nat}
  {activity activity' : Activity} {node : Node}

/-! ## Passing -/

/-- A page that is in hand no more after a turn was about to arrive, and well, if nothing
    has failed. -/
theorem hasPassed_of_let_go (known : build.Accounted past state)
    (hm : activity ∈ state.workers)
    (turn : Turn build renderer fileName separator state activity activity' shared)
    (calm : ¬ state.Alarmed) (hn : activity.node? = some node) (hn' : activity'.node? ≠ some node)
    (count : Nat) : activity.HasPassed build count := by
  cases turn with
  | @arrive _ success =>
    cases success with
    | true => rfl
    | false => exact absurd (Or.inl (known.arriving hm)) calm
  | fall => exact absurd (Or.inr ⟨_, hm, trivial⟩) calm
  | work hs => cases hn; exact absurd hs.node?_eq hn'
  | finish | failLate | failFirst | keep => exact absurd hn hn'
  | leave | look | miss | take | count | report | alarm => cases hn

/-- A page that has some moves behind it had them behind it before the turn, or the turn
    was a move from a point before. -/
theorem hasPassed_before (regular : build.Regular renderer fileName separator)
    (known : build.Accounted past state) (ha : state.workers[worker]? = some activity)
    (turn : Turn build renderer fileName separator state activity activity' shared) {count : Nat}
    (hcount : 0 < count) (hnode : build.site.tree.node? node.id = some node)
    (h : (afterTurn state shared worker activity').HasPassed build count node) :
    state.HasPassed build count node ∨
      ∃ point job ws, activity = .working job (build.movesFrom point) ∧ job.node = node ∧
        point.index < count ∧
        Stride build renderer fileName separator point job state.workspace activity' ws ∧
        activity'.HasPassed build count ∧ shared = { state with workspace := ws } := by
  have hm := List.mem_of_getElem? ha
  rcases h with ⟨hlt, hnot, hcalm⟩ | ⟨b, hb, hn, hp⟩
  · refine Or.inl ?_
    have calm : ¬ state.Alarmed := fun hl => hcalm (alarmed_afterTurn turn ha hl)
    have hnot' (h : activity'.node? = some node) : False := hnot ⟨_, mem_afterTurn_self ha, h⟩
    by_cases hh : state.Holds node
    · rcases exists_mem_afterTurn ha hh with hn | hh
      · exact Or.inr ⟨_, hm, hn, hasPassed_of_let_go known hm turn calm hn hnot' count⟩
      · exact absurd hh hnot
    · refine Or.inl ⟨?_, hh, calm⟩
      have hsize := ContentTree.lt_size_of_node? hnode
      replace hlt : node.id < shared.cursor := hlt
      cases turn.effect with
      | stay _ hc => omega
      | take htaken _ hn hc =>
        have hne : node.id ≠ state.cursor := by
          intro he; rw [he, htaken] at hnode; cases hnode; exact hnot' hn
        omega
      | arrive _ _ hs => subst hs; exact hlt
  · rcases mem_afterTurn hb with hb | rfl
    · exact Or.inl (Or.inr ⟨b, hb, hn, hp⟩)
    · rcases hasPassed_of_turn regular.standard hcount turn hp with
        ⟨hn', hp'⟩ | ⟨point, job, ws, rfl, hlt, stride, rfl⟩
      · exact Or.inl (Or.inr ⟨_, hm, hn'.trans hn, hp'⟩)
      · refine Or.inr ⟨point, job, ws, rfl, ?_, hlt, stride, hp, rfl⟩
        exact Option.some.inj (stride.node?_eq.symm.trans hn)

/-- A page at work has just the moves behind it that its point tells. -/
theorem lt_of_hasPassed (regular : build.Regular renderer fileName separator)
    (d : build.Dispatched state) {job : Job} {point : Waypoint} {count : Nat}
    (ha : state.workers[worker]? = some (.working job (build.movesFrom point)))
    (h : state.HasPassed build count job.node) : count ≤ point.index := by
  rcases h with ⟨-, hnot, -⟩ | ⟨b, hb, hn, hp⟩
  · exact absurd ⟨_, List.mem_of_getElem? ha, rfl⟩ hnot
  · obtain ⟨other, hb⟩ := List.mem_iff_getElem?.1 hb
    have := d.apart hb ha hn rfl
    subst this
    rw [ha] at hb; cases hb
    exact (hasPassed_working_iff regular.standard).1 hp

/-- The moves that bring a page that is written past its writing and past its noting. -/
theorem stride_of_isWriter (regular : build.Regular renderer fileName separator)
    (known : build.Gathers renderer fileName separator past state) {point : Waypoint} {job : Job}
    {count : Nat} {ws : Workspace} (hcount : count = 9 ∨ count = 10)
    (hm : .working job (build.movesFrom point) ∈ state.workers)
    (hwriter : build.site.tree.IsWriter job.node) (hlt : point.index < count)
    (stride : Stride build renderer fileName separator point job state.workspace activity' ws)
    (hp : activity'.HasPassed build count) :
    (count = 9 ∧ point = .writing ∧ ∃ files,
      state.workspace.files.write (job.outputFile build.site) job.text.toUTF8 = .ok files ∧
        ws = { state.workspace with files := files }) ∨
    (count = 10 ∧ point = .noting ∧ ws = state.workspace.note job.node (some job.text)) := by
  have late {job : Job} {point : Waypoint}
      (hp : (Activity.working job (build.movesFrom point)).HasPassed build count)
      (hle : point.index ≤ 8) : False := by
    have := (hasPassed_working_iff regular.standard).1 hp
    omega
  cases stride with
  | write hw =>
    have hle : count ≤ 9 := (hasPassed_working_iff regular.standard).1 hp
    exact Or.inl ⟨by omega, rfl, _, hw, rfl⟩
  | note =>
    have hle : 9 < count := hlt
    exact Or.inr ⟨by omega, rfl, rfl⟩
  | leave hvirtual => rw [hwriter.document] at hvirtual; cases hvirtual
  | @contribute _ _ parent hg hl =>
    rw [(known.carries hm).gatherer?_eq (by decide)] at hg
    have hparent := (regular.numbered.parent?_eq_some_iff.1
      (ContentTree.gatherer?_eq_some_iff.1 hg).1).2
    rw [regular.numbered.lastDocument?_eq hparent, hwriter.last parent hg] at hl
    exact absurd rfl hl
  | done =>
    have hlt : 10 < count := hlt
    omega
  | read | keep | expand | alone | lead | pass | meet | own | gather | render | rootFile | prepare =>
    exact (late hp (by decide)).elim
  | _ => exact hp.elim

/-! ## Files and notes -/

/-- A page that is written keeps its file. -/
theorem read_of_turn (regular : build.Regular renderer fileName separator)
    (determined : build.Determined renderer fileName separator workspace plan) {cancelled : Bool}
    (history : build.History (build.start workspace cancelled) (state :: past))
    (ha : state.workers[worker]? = some activity)
    (turn : Turn build renderer fileName separator state activity activity' shared)
    (hwriter : build.site.tree.IsWriter node) (hp : state.HasPassed build 9 node) {data : ByteArray}
    (hread : state.workspace.files.read (build.fileOf fileName node) = .ok data) :
    shared.workspace.files.read (build.fileOf fileName node) = .ok data := by
  have hext := extendedBy_of_history regular history
  have d := dispatched_of_history regular history
  rcases files_of_turn turn with hsame | ⟨job, rfl, hw⟩
  · exact hsame.read id hread
  · obtain ⟨hwriter', hfile⟩ := outputFile_of_writing regular history (by decide) ha
    refine (FileSystem.extendedBy_write hw).read (fun htarget => ?_) hread
    rw [hfile, hext.target_eq, hext.target_eq] at htarget
    -- The page at work would be past its writing.
    have heq := determined.distinct hwriter hwriter' htarget
    subst heq
    exact absurd (lt_of_hasPassed regular d ha hp) (by decide)

/-- What a turn does to the notes. -/
inductive Notes (build : Build) (state : BuildState) (activity : Activity) (shared : BuildState) :
    Prop
  | keep : shared.workspace.rendered = state.workspace.rendered →
      (∀ id, id < build.site.tree.size → id < shared.cursor → id < state.cursor) →
      Notes build state activity shared
  | forget {taken : Node} : build.site.tree.node? state.cursor = some taken →
      shared.workspace.rendered = state.workspace.rendered.set taken.id none →
      shared.cursor = state.cursor + 1 → Notes build state activity shared
  | note {job : Job} : activity = .working job (build.movesFrom .noting) →
      shared.workspace.rendered = state.workspace.rendered.set job.node.id (some job.text) →
      shared.cursor = state.cursor → Notes build state activity shared

theorem notes_of_turn
    (turn : Turn build renderer fileName separator state activity activity' shared) :
    Notes build state activity shared := by
  have changed (workspace : Workspace) (node : Node) (change : Barrier → Barrier) :
      (workspace.changeBarrier node change).rendered = workspace.rendered := by
    unfold Workspace.changeBarrier; split <;> rfl
  cases turn with
  | take hn => exact .forget hn rfl rfl
  | miss hc => exact .keep rfl fun id hid _ => Nat.lt_of_lt_of_le hid hc
  | arrive | fall => exact .keep (changed ..) fun _ _ h => h
  | work hs =>
    cases hs with
    | note => exact .note rfl rfl rfl
    | contribute | lead => exact .keep (changed ..) fun _ _ h => h
    | _ => exact .keep rfl fun _ _ h => h
  | _ => exact .keep rfl fun _ _ h => h

/-! ## The invariant -/

/-- What has been written and noted. -/
structure Published (build : Build) (fileName separator : String) (plan : Plan)
    (state : BuildState) : Prop where
  length : state.workspace.rendered.length = build.site.tree.size
  read : ∀ {node : Node}, build.site.tree.IsWriter node → state.HasPassed build 9 node →
    state.workspace.files.read (build.fileOf fileName node) =
      .ok (plan.output (plan.job build fileName separator node)).toUTF8
  noted : ∀ {node : Node}, build.site.tree.IsWriter node → state.HasPassed build 10 node →
    state.workspace.rendered[node.id]? =
      some (some (plan.output (plan.job build fileName separator node)))
  unnoted : ∀ {node : Node}, build.site.tree.node? node.id = some node →
    ¬ build.site.tree.IsWriter node → node.id < state.cursor →
    state.workspace.rendered[node.id]? = some none

theorem published_start (build : Build) (fileName separator : String) (plan : Plan)
    (workspace : Workspace) (cancelled : Bool)
    (fits : workspace.rendered.length = build.site.tree.size) :
    build.Published fileName separator plan (build.start workspace cancelled) := by
  have none_passed {count : Nat} {node : Node}
      (h : (build.start workspace cancelled).HasPassed build count node) : False := by
    rcases h with ⟨hlt, -, -⟩ | ⟨activity, hm, hn, -⟩
    · exact Nat.not_lt_zero _ hlt
    · cases eq_looking_of_mem_start hm; cases hn
  exact ⟨fits, fun _ h => (none_passed h).elim, fun _ h => (none_passed h).elim,
    fun _ _ h => (Nat.not_lt_zero _ h).elim⟩

section
variable (regular : build.Regular renderer fileName separator)
  (determined : build.Determined renderer fileName separator workspace plan) {cancelled : Bool}
  (history : build.History (build.start workspace cancelled) (state :: past))
  (known : build.Published fileName separator plan state)
  (ha : state.workers[worker]? = some activity)
  (turn : Turn build renderer fileName separator state activity activity' shared)
include regular determined history known ha turn

theorem published_read (hwriter : build.site.tree.IsWriter node)
    (hp : (afterTurn state shared worker activity').HasPassed build 9 node) :
    shared.workspace.files.read (build.fileOf fileName node) =
      .ok (plan.output (plan.job build fileName separator node)).toUTF8 := by
  rcases hasPassed_before regular (accounted_of_history regular history) ha turn (by decide)
    hwriter.known hp with hp | ⟨point, job, ws, rfl, rfl, hlt, stride, hpassed, rfl⟩
  · exact read_of_turn regular determined history ha turn hwriter hp (known.read hwriter hp)
  · have hm := List.mem_of_getElem? ha
    rcases stride_of_isWriter regular (gathers_of_history regular history) (Or.inl rfl) hm hwriter
      hlt stride hpassed with ⟨-, rfl, files, hw, rfl⟩ | ⟨h, -⟩
    · have hfile := (outputFile_of_writing regular history (by decide) ha).2
      have htext := congrArg Job.text
        (job_eq_of_carries regular determined history (by decide) ha).2
      rw [hfile, htext] at hw
      exact FileSystem.read_of_write hw
    · cases h

theorem published_noted (hwriter : build.site.tree.IsWriter node)
    (hp : (afterTurn state shared worker activity').HasPassed build 10 node) :
    shared.workspace.rendered[node.id]? =
      some (some (plan.output (plan.job build fileName separator node))) := by
  have numbered := regular.numbered
  have d := dispatched_of_history regular history
  rcases hasPassed_before regular (accounted_of_history regular history) ha turn (by decide)
    hwriter.known hp with hp | ⟨point, job, ws, rfl, rfl, hlt, stride, hpassed, rfl⟩
  · have hbefore := known.noted hwriter hp
    cases notes_of_turn turn with
    | keep hsame => rw [hsame]; exact hbefore
    | @forget taken htaken hset =>
      have hlt : node.id < state.cursor := by
        rcases hp with ⟨hlt, -⟩ | ⟨b, hb, hn, -⟩
        · exact hlt
        · obtain ⟨other, hb⟩ := List.mem_iff_getElem?.1 hb
          exact (d.held hb hn).2
      have hid := numbered.id_eq htaken
      rw [hset, List.getElem?_set_ne (by omega)]; exact hbefore
    | @note job hjob hset =>
      subst hjob
      have hne : job.node.id ≠ node.id := by
        intro he
        have hknown := (d.held ha rfl).1
        rw [he, hwriter.known] at hknown
        cases hknown
        exact absurd (lt_of_hasPassed regular d ha hp) (by decide)
      rw [hset, List.getElem?_set_ne hne]; exact hbefore
  · have hm := List.mem_of_getElem? ha
    rcases stride_of_isWriter regular (gathers_of_history regular history) (Or.inr rfl) hm hwriter
      hlt stride hpassed with ⟨h, -⟩ | ⟨-, rfl, rfl⟩
    · cases h
    · have htext := congrArg Job.text
        (job_eq_of_carries regular determined history (by decide) ha).2
      have hsize := ContentTree.lt_size_of_node? hwriter.known
      show (state.workspace.rendered.set job.node.id (some job.text))[job.node.id]? = _
      rw [List.getElem?_set_self (by rw [known.length]; exact hsize), htext]

theorem published_unnoted (hnode : build.site.tree.node? node.id = some node)
    (hnot : ¬ build.site.tree.IsWriter node)
    (hlt : node.id < (afterTurn state shared worker activity').cursor) :
    (afterTurn state shared worker activity').workspace.rendered[node.id]? = some none := by
  show shared.workspace.rendered[node.id]? = some none
  replace hlt : node.id < shared.cursor := hlt
  have numbered := regular.numbered
  have hsize := ContentTree.lt_size_of_node? hnode
  cases notes_of_turn turn with
  | keep hsame hcursor => rw [hsame]; exact known.unnoted hnode hnot (hcursor _ hsize hlt)
  | @forget taken htaken hset hcursor =>
    have hid := numbered.id_eq htaken
    rw [hset]
    by_cases he : taken.id = node.id
    · rw [he, List.getElem?_set_self (by rw [known.length]; exact hsize)]
    · rw [List.getElem?_set_ne he]; exact known.unnoted hnode hnot (by omega)
  | @note job hjob hset hcursor =>
    subst hjob
    have hne : job.node.id ≠ node.id := by
      intro he
      have hknown := ((dispatched_of_history regular history).held ha rfl).1
      rw [he, hnode] at hknown
      cases hknown
      exact hnot (job_eq_of_carries regular determined history (by decide) ha).1
    rw [hset, List.getElem?_set_ne hne]
    exact known.unnoted hnode hnot (hcursor ▸ hlt)

end

/-- **What is written** is so at every point of a history. -/
theorem published_of_history (regular : build.Regular renderer fileName separator)
    (determined : build.Determined renderer fileName separator workspace plan) {cancelled : Bool}
    (fits : workspace.rendered.length = build.site.tree.size)
    (h : build.History (build.start workspace cancelled) (state :: past)) :
    build.Published fileName separator plan state := by
  refine History.turns (P := fun _ state => build.Published fileName separator plan state) regular
    (published_start build fileName separator plan workspace cancelled fits) ?_ ?_ h
  · intro past state worker activity activity' shared history known ha turn
    have length : shared.workspace.rendered.length = build.site.tree.size := by
      cases notes_of_turn turn with
      | keep hsame => rw [hsame]; exact known.length
      | forget _ hset => rw [hset, List.length_set]; exact known.length
      | note _ hset => rw [hset, List.length_set]; exact known.length
    exact ⟨length, published_read regular determined history known ha turn,
      published_noted regular determined history known ha turn,
      published_unnoted regular determined history known ha turn⟩
  · intro past state _ known _
    exact ⟨known.length, known.read, known.noted, known.unnoted⟩

/-! ## The end of a build -/

/-- At the end of a build in which nothing failed all pages have passed all moves. -/
theorem hasPassed_of_isOver (regular : build.Regular renderer fileName separator) {cancelled : Bool}
    (h : build.History (build.start workspace cancelled) (state :: past)) (ended : state.IsOver)
    (calm : ¬ state.Alarmed) (uncancelled : state.cancelled = false)
    (hnode : build.site.tree.node? node.id = some node) (count : Nat) :
    node.id < state.cursor ∧ state.HasPassed build count node := by
  have hcrew := (dispatched_of_history regular h).crew
  have hpos : 0 < state.workers.length := by rw [hcrew, crew]; omega
  have hfirst : state.workers[0]? = some state.workers[0] := List.getElem?_eq_getElem hpos
  obtain ⟨crashed, hgone⟩ := ended _ (List.getElem_mem hpos)
  rw [hgone] at hfirst
  have hm := List.mem_of_getElem? hfirst
  have hlt : node.id < state.cursor := by
    have hsize := ContentTree.lt_size_of_node? hnode
    cases crashed with
    | true => exact absurd (Or.inr ⟨_, hm, trivial⟩) calm
    | false =>
      rcases (ledger_of_history regular.numbered h).exit hm with hf | hc | hle
      · exact absurd (Or.inl hf) calm
      · rw [uncancelled] at hc; cases hc
      · omega
  refine ⟨hlt, Or.inl ⟨hlt, ?_, calm⟩⟩
  rintro ⟨activity, hm, hn⟩
  obtain ⟨_, rfl⟩ := ended activity hm
  cases hn

/-- **Schedule independence.** Let documents, extensions and renderer keep to a plan, let
    the workspace have a place for the output of each page, and let no page fail or crash
    and no cancellation be asked for.  Then every history of the build of a loaded tree
    goes on to an end, and there, whatever the order of the steps was:

    * the build has completed;
    * a page that goes into a file of its own is there, rendered from its expanded text;
    * the file of an aggregate page with documents below it is there, rendered from their
      expanded texts in order;
    * there is no other file that was not there before, and none has changed;
    * just the pages that are written have an output noted, and it is the one written. -/
theorem completed_of_history {reader : Yaml.Reader} {files : FileSystem} {format : ContentFormat}
    {root : Path} (loaded : ContentTree.load reader files format root = .ok build.site.tree)
    (standard : build.Standard renderer fileName separator)
    (determined : build.Determined renderer fileName separator workspace plan)
    (fits : workspace.rendered.length = build.site.tree.size) {cancelled : Bool}
    (history : build.History (build.start workspace cancelled) (state :: past))
    (succeeds : ¬ ∃ node error, Fails (state :: past) node error)
    (survives : ¬ ∃ node, Crashes (state :: past) node)
    (uncancelled : state.cancelled = false) :
    (∃ last later, build.History (build.start workspace cancelled) (last :: later) ∧
      state :: past <:+ last :: later ∧ last.IsOver) ∧
    (state.IsOver →
      (∃ stats, build.outcome state = .ok (.completed stats)) ∧
      (∀ node, build.site.tree.node? node.id = some node → node.page.isVirtual = false →
        build.site.tree.gatherer? node = none →
        state.workspace.files.read (build.site.outputRoot.join node.page.output) =
          .ok (plan.output (.whole build.site node (plan.expansion node))).toUTF8) ∧
      (∀ parent, build.site.tree.node? parent.id = some parent → parent.page.isAggregate = true →
        ∀ last, (build.site.tree.documents parent).getLast? = some last →
        state.workspace.files.read (build.site.outputRoot.join
            ((parent.page.output.parent?.getD ⟨""⟩).join ⟨fileName⟩)) =
          .ok (plan.output (.combined build.site fileName parent last (separator.intercalate
            ((build.site.tree.documents parent).map plan.expansion)))).toUTF8) ∧
      (∀ location data, state.workspace.files.entry? location = some (.file data) ↔
        (∃ node, build.site.tree.IsWriter node ∧
          location = workspace.files.target (build.fileOf fileName node) ∧
          data = (plan.output (plan.job build fileName separator node)).toUTF8) ∨
        (¬ build.Outputs fileName workspace.files location ∧
          workspace.files.entry? location = some (.file data))) ∧
      ∀ node, build.site.tree.node? node.id = some node →
        (build.site.tree.IsWriter node → state.workspace.rendered[node.id]? =
          some (some (plan.output (plan.job build fileName separator node)))) ∧
        (¬ build.site.tree.IsWriter node → state.workspace.rendered[node.id]? = some none)) := by
  have regular := regular_of_load loaded standard
  have numbered := regular.numbered
  refine ⟨exists_over_of_history regular history, fun ended => ?_⟩
  have known := accounted_of_history regular history
  have published := published_of_history regular determined fits history
  have hext := extendedBy_of_history regular history
  obtain ⟨hfirst, calm⟩ := calm_of_succeeds known ended succeeds survives
  have passed {node : Node} (hnode : build.site.tree.node? node.id = some node) :=
    hasPassed_of_isOver regular history ended calm uncancelled hnode
  have written {node : Node} (hwriter : build.site.tree.IsWriter node) :=
    published.read hwriter (passed hwriter.known 9).2
  refine ⟨?_, fun node hnode hv hg => ?_, fun parent hparent hagg last hlast => ?_,
    fun location data => ?_, fun node hnode => ⟨fun hwriter => ?_, fun hnot => ?_⟩⟩
  · have hcrash : ¬ state.workers.any Activity.isCrash = true :=
      fun h => calm (Or.inr ((any_isCrash_iff ended).1 h))
    rw [outcome, if_neg hcrash, hfirst]
    dsimp only
    rw [if_neg (by rw [uncancelled]; simp)]
    exact ⟨_, rfl⟩
  · have hread := written ⟨hnode, hv, fun parent hp => by cases hg.symm.trans hp⟩
    rw [fileOf, Plan.job, hg] at hread
    exact hread
  · have hm := List.mem_of_getLast? hlast
    obtain ⟨hl, hlp, hv⟩ := (numbered.mem_documents_iff hparent).1 hm
    have hg : build.site.tree.gatherer? last = some parent :=
      ContentTree.gatherer?_eq_some_iff.2 ⟨numbered.parent?_eq_some_iff.2 ⟨hlp, hparent⟩, hagg⟩
    have hread := written ⟨hl, hv, fun parent' hp => by cases hg.symm.trans hp; exact hlast⟩
    rw [fileOf, Plan.job, hg] at hread
    exact hread
  · have entry {node : Node} (hwriter : build.site.tree.IsWriter node) :=
      (FileSystem.read_eq_ok_iff.1 (written hwriter)).2.2
    constructor
    · intro he
      by_cases ho : build.Outputs fileName workspace.files location
      · obtain ⟨node, hwriter, rfl⟩ := ho
        rw [← hext.target_eq, entry hwriter] at he
        cases he
        exact Or.inl ⟨node, hwriter, rfl, rfl⟩
      · exact Or.inr ⟨ho, (hext.file ho).1 he⟩
    · rintro (⟨node, hwriter, rfl, rfl⟩ | ⟨ho, he⟩)
      · rw [← hext.target_eq]; exact entry hwriter
      · exact (hext.file ho).2 he
  · exact published.noted hwriter (passed hwriter.known 10).2
  · exact published.unnoted hnode hnot (passed hnode 10).1

end Build

/-! ## The small course, built -/

namespace Sample

/-- The text of a page. -/
def body (node : Node) : String :=
  match ContentTree.readBody files node.page with
  | .ok text => text
  | .error _ => ""

/-- No page of the course calls an extension, and the renderer leaves texts as they are. -/
def plan : Plan := ⟨body, body, (·.text), fun _ => True⟩

/-- The text has no directives. -/
def isPlain (text : String) : Bool :=
  match Directive.Segment.parse text with
  | .ok [.literal literal] => literal == text
  | _ => false

theorem expand_of_isPlain {text : String} (h : isPlain text = true) (fs : FileSystem)
    (page : Directive.PageInfo) : Directive.Registry.expand .empty fs page text = .ok text := by
  unfold isPlain at h
  split at h
  · rename_i literal hsegments
    rw [Directive.Registry.expand, hsegments]
    simp only [Directive.Registry.expandSegments, Except.map, String.append_empty, beq_iff_eq.1 h]
  · cases h

/-- The page is not followed by another document of an aggregate page. -/
def isLast (node : Node) : Bool :=
  match build.site.tree.gatherer? node with
  | none => true
  | some parent => (build.site.tree.documents parent).getLast?.any (·.id == node.id)

theorem isLast_of_isWriter {node : Node} (h : build.site.tree.IsWriter node) :
    isLast node = true := by
  unfold isLast
  split
  · rfl
  · rename_i parent hg
    rw [h.last parent hg]; simp

theorem determined : build.Determined .plain "all.html" "|" workspace plan := by
  have mem {node : Node} (h : build.site.tree.node? node.id = some node) :
      node ∈ build.site.tree.nodes := List.mem_of_getElem? h
  refine ⟨fun {node} h _ => ?_, fun {node path} h hs => ?_, fun {node later} h _ _ => ?_, trivial,
    fun _ _ h => ?_, fun {node node'} h h' htarget => ?_⟩
  · have hall : (build.site.tree.nodes.all fun node =>
        (ContentTree.readBody files node.page).isOk) = true := by decide +kernel
    have hok := List.all_eq_true.1 hall node (mem h)
    show ContentTree.readBody files node.page = .ok (body node)
    unfold body
    cases hr : ContentTree.readBody files node.page with
    | ok text => rfl
    | error => rw [hr] at hok; cases hok
  · have hall : (build.site.tree.nodes.all fun node => build.site.tree.nodes.all fun other =>
        node.page.source.all fun path =>
          files.target path != files.target (build.fileOf "all.html" other)) = true := by
      decide +kernel
    rintro ⟨other, hwriter, htarget⟩
    have hne := List.all_eq_true.1 (List.all_eq_true.1 hall node (mem h)) other (mem hwriter.known)
    simp only [hs, Option.all_some, bne_iff_ne] at hne
    exact hne htarget
  · have hall : (build.site.tree.nodes.all fun node => isPlain (body node)) = true := by
      decide +kernel
    exact expand_of_isPlain (List.all_eq_true.1 hall node (mem h)) ..
  · cases h; exact ⟨rfl, trivial⟩
  · have hall : (build.site.tree.nodes.all fun node => build.site.tree.nodes.all fun other =>
        !isLast node || !isLast other || node.id == other.id ||
          files.target (build.fileOf "all.html" node) !=
            files.target (build.fileOf "all.html" other)) = true := by decide +kernel
    have hor := List.all_eq_true.1 (List.all_eq_true.1 hall node (mem h.known)) node' (mem h'.known)
    simp only [isLast_of_isWriter h, isLast_of_isWriter h', Bool.not_true, Bool.false_or,
      Bool.or_eq_true, beq_iff_eq, bne_iff_ne] at hor
    rcases hor with hid | hne
    · have hknown := h.known
      rw [hid, h'.known] at hknown
      cases hknown; rfl
    · exact absurd htarget hne

/-- The course, built. -/
def built : BuildState := build.run workspace false

end Sample

open Sample in
/-- The course is built, and the file of its first page has the texts below it. -/
theorem completed_of_history_built :
    (∃ stats, build.outcome built = .ok (.completed stats)) ∧
      ∀ parent, build.site.tree.node? parent.id = some parent → parent.page.isAggregate = true →
        ∀ last, (build.site.tree.documents parent).getLast? = some last →
          built.workspace.files.read (build.site.outputRoot.join
            ((parent.page.output.parent?.getD ⟨""⟩).join ⟨"all.html"⟩)) =
            .ok ("|".intercalate ((build.site.tree.documents parent).map body)).toUTF8 := by
  obtain ⟨past, history⟩ : ∃ past, build.History (build.start workspace false) (built :: past) :=
    Build.exists_history_run build workspace false
  have hgone : built.workers.all isHome = true := by decide +kernel
  have hfailed : built.failed = false := by decide +kernel
  have huncancelled : built.cancelled = false := by decide +kernel
  have hfits : workspace.rendered.length = build.site.tree.size := by decide +kernel
  have known := Build.accounted_of_history (Build.regular_of_load loaded standard) history
  have succeeds : ¬ ∃ node error, Fails (built :: past) node error := by
    rintro ⟨node, error, hfails⟩
    rcases known.lost hfails with hf | ⟨_, hm, _, _, rfl⟩
    · rw [hfailed] at hf; cases hf
    · cases eq_gone_of_all hgone hm
  have survives : ¬ ∃ node, Crashes (built :: past) node := by
    rintro hcrash
    obtain ⟨activity, hm, hc⟩ := known.crashed.1 hcrash
    rw [eq_gone_of_all hgone hm] at hc; exact hc
  obtain ⟨hcompleted, -, hfiles, -⟩ := (Build.completed_of_history loaded standard determined hfits
    history succeeds survives huncancelled).2 fun _ hm => ⟨false, eq_gone_of_all hgone hm⟩
  exact ⟨hcompleted, hfiles⟩

end CourseSite
