/-
  The way of a page through the standard pipeline, one move at a time.

  * `Waypoint`: where a page stands, each point named for the move ahead of it;
    `Build.movesFrom` are the moves ahead.
  * `Stride`: all that one move can do to a page and to what the pages share.
  * `stride_of_work`: every move that a worker makes is a stride, and
    `work_eq_none_iff`: it makes none only while its page waits for its siblings.
-/
import CourseSite.Site.Build

namespace CourseSite

/-- The points on the way of a page. -/
inductive Waypoint where
  | reading
  | skipping
  | expanding
  | contributing
  | awaiting
  | gathering
  | rendering
  | preparing
  | writing
  | noting
  | through
deriving DecidableEq

namespace Waypoint

/-- The number of moves behind a page. -/
def index : Waypoint → Nat
  | reading => 0
  | skipping => 1
  | expanding => 2
  | contributing => 3
  | awaiting => 4
  | gathering => 5
  | rendering => 6
  | preparing => 7
  | writing => 8
  | noting => 9
  | through => 10

theorem index_injective {point point' : Waypoint} (h : point.index = point'.index) :
    point = point' := by
  revert h
  cases point <;> cases point' <;> simp [index]

theorem index_le (point : Waypoint) : point.index ≤ 10 := by
  cases point <;> decide

/-- The next move of a page in the standard pipeline, and the point behind it. -/
def ahead (renderer : Renderer) (fileName separator : String) :
    Waypoint → Option (NamedMove × Waypoint)
  | reading => some (("", Move.readBody), skipping)
  | skipping => some (("skip-virtual", Stage.leaveVirtual), expanding)
  | expanding => some (("expand-directives", Stage.replaceCalls), contributing)
  | contributing => some (("aggregate", Stage.contribute), awaiting)
  | awaiting => some (("aggregate", Stage.awaitSiblings), gathering)
  | gathering => some (("aggregate", Stage.gather fileName separator), rendering)
  | rendering => some (("render", Stage.renderText renderer), preparing)
  | preparing => some (("write", Stage.makeDirectory), writing)
  | writing => some (("write", Stage.writeFile), noting)
  | noting => some (("write", Stage.noteOutput), through)
  | through => none

end Waypoint

namespace Build
variable {build : Build} {renderer : Renderer} {fileName separator : String}

/-- The build sends its pages through the standard pipeline. -/
def Standard (build : Build) (renderer : Renderer) (fileName separator : String) : Prop :=
  build.pipeline = Pipeline.standard renderer fileName separator

/-- The moves ahead of a page. -/
def movesFrom (build : Build) (point : Waypoint) : List NamedMove := build.moves.drop point.index

theorem movesFrom_reading : build.movesFrom .reading = build.moves := rfl

theorem movesFrom_eq (standard : build.Standard renderer fileName separator) (point : Waypoint) :
    build.movesFrom point =
      match point.ahead renderer fileName separator with
      | some (move, next) => move :: build.movesFrom next
      | none => [] := by
  unfold movesFrom moves
  rw [standard]
  cases point <;> rfl

theorem length_movesFrom (standard : build.Standard renderer fileName separator)
    (point : Waypoint) : (build.movesFrom point).length = 10 - point.index := by
  unfold movesFrom moves
  rw [standard, List.length_drop]; rfl

/-- A page stands at one point only. -/
theorem movesFrom_injective (standard : build.Standard renderer fileName separator)
    {point point' : Waypoint} (h : build.movesFrom point = build.movesFrom point') :
    point = point' := by
  have hl := congrArg List.length h
  rw [length_movesFrom standard, length_movesFrom standard] at hl
  have := point.index_le
  have := point'.index_le
  exact Waypoint.index_injective (by omega)

end Build

/-! ## Strides -/

/-- The page of an aggregate parent on its way to the file that it and its siblings
    share. -/
def Job.gathered (fileName separator : String) (job : Job) (parent : Node)
    (barrier? : Option Barrier) : Job :=
  { job with
    text := (barrier?.map fun barrier => (barrier.joinFragments separator).1).getD ""
    outputPath := (parent.page.output.parent?.getD ⟨""⟩).join ⟨fileName⟩
    tokens := Dictionary.insert "url" (.string parent.page.url)
      (Dictionary.insert "title" (.string parent.page.title) job.tokens) }

open Stage in
/-- What a move can do: from the point, the page and the workspace before it to the
    activity of the worker and the workspace after it. -/
inductive Stride (build : Build) (renderer : Renderer) (fileName separator : String) :
    Waypoint → Job → Workspace → Activity → Workspace → Prop
  | read {job ws text} : ContentTree.readBody ws.files job.node.page = .ok text →
      Stride build renderer fileName separator .reading job ws
        (.working { job with text := text } (build.movesFrom .skipping)) ws
  | unread {job ws error} : ContentTree.readBody ws.files job.node.page = .error error →
      Stride build renderer fileName separator .reading job ws (.failing job.node (.source error)) ws
  | leave {job ws} : job.node.page.isVirtual = true →
      Stride build renderer fileName separator .skipping job ws (.ending job.node true) ws
  | keep {job ws} : job.node.page.isVirtual = false →
      Stride build renderer fileName separator .skipping job ws
        (.working job (build.movesFrom .expanding)) ws
  | expand {job ws text} :
      build.site.registry.expand ws.files (pageInfo build.site job.node) job.text = .ok text →
      Stride build renderer fileName separator .expanding job ws
        (.working { job with text := text } (build.movesFrom .contributing))
        ws
  | unexpanded {job ws error} :
      build.site.registry.expand ws.files (pageInfo build.site job.node) job.text =
        .error (.error error) →
      Stride build renderer fileName separator .expanding job ws
        (.failing job.node (.directive error)) ws
  | expansionCrash {job ws} :
      build.site.registry.expand ws.files (pageInfo build.site job.node) job.text =
        .error .crash →
      Stride build renderer fileName separator .expanding job ws (.falling job.node) ws
  | alone {job ws} : gatherer? build.site job = none →
      Stride build renderer fileName separator .contributing job ws
        (.working job (build.movesFrom .awaiting)) ws
  | contribute {job ws parent} : gatherer? build.site job = some parent →
      lastDocument? build.site.tree parent ≠ some job.node.position →
      Stride build renderer fileName separator .contributing job ws (.ending job.node true)
        (ws.changeBarrier job.node (·.insertFragment job.node.position job.text))
  | lead {job ws parent} : gatherer? build.site job = some parent →
      lastDocument? build.site.tree parent = some job.node.position →
      Stride build renderer fileName separator .contributing job ws
        (.working job (build.movesFrom .awaiting))
        (ws.changeBarrier job.node (·.insertFragment job.node.position job.text))
  | pass {job ws} : gatherer? build.site job = none →
      Stride build renderer fileName separator .awaiting job ws
        (.working job (build.movesFrom .gathering)) ws
  | meet {job ws parent} : gatherer? build.site job = some parent → ws.standing job = .ready →
      Stride build renderer fileName separator .awaiting job ws
        (.working job (build.movesFrom .gathering)) ws
  | follow {job ws parent} : gatherer? build.site job = some parent → ws.standing job = .failed →
      Stride build renderer fileName separator .awaiting job ws
        (.failing job.node .siblingFailed) ws
  | own {job ws} : gatherer? build.site job = none →
      Stride build renderer fileName separator .gathering job ws
        (.working job (build.movesFrom .rendering)) ws
  | gather {job ws parent} : gatherer? build.site job = some parent →
      Stride build renderer fileName separator .gathering job ws
        (.working (job.gathered fileName separator parent (ws.barrier? job))
          (build.movesFrom .rendering)) ws
  | render {job ws text cache} : renderer.render build.site job ws.cache = .ok (text, cache) →
      Stride build renderer fileName separator .rendering job ws
        (.working { job with text := text } (build.movesFrom .preparing))
        { ws with cache := cache }
  | unrendered {job ws reason} :
      renderer.render build.site job ws.cache = .error (.error reason) →
      Stride build renderer fileName separator .rendering job ws
        (.failing job.node (.render reason)) ws
  | renderCrash {job ws} : renderer.render build.site job ws.cache = .error .crash →
      Stride build renderer fileName separator .rendering job ws (.falling job.node) ws
  | rootFile {job ws} : (job.outputFile build.site).parent? = none →
      Stride build renderer fileName separator .preparing job ws
        (.working job (build.movesFrom .writing)) ws
  | prepare {job ws directory files} : (job.outputFile build.site).parent? = some directory →
      ws.files.createDirectories directory = (files, none) →
      Stride build renderer fileName separator .preparing job ws
        (.working job (build.movesFrom .writing))
        { ws with files := files }
  | unprepared {job ws directory files error} :
      (job.outputFile build.site).parent? = some directory →
      ws.files.createDirectories directory = (files, some error) →
      Stride build renderer fileName separator .preparing job ws
        (.failing job.node (.io directory error)) { ws with files := files }
  | write {job ws files} :
      ws.files.write (job.outputFile build.site) job.text.toUTF8 = .ok files →
      Stride build renderer fileName separator .writing job ws
        (.working job (build.movesFrom .noting)) { ws with files := files }
  | unwritten {job ws error} :
      ws.files.write (job.outputFile build.site) job.text.toUTF8 = .error error →
      Stride build renderer fileName separator .writing job ws
        (.failing job.node (.io (job.outputFile build.site) error)) ws
  | note {job ws} :
      Stride build renderer fileName separator .noting job ws
        (.working job (build.movesFrom .through))
        (ws.note job.node (some job.text))
  | done {job ws} :
      Stride build renderer fileName separator .through job ws (.ending job.node false) ws

section
variable {build : Build} {renderer : Renderer} {fileName separator : String}

/-- **Every move is a stride.** -/
theorem stride_of_work (standard : build.Standard renderer fileName separator) {point : Waypoint}
    {job : Job} {state state' : BuildState} {activity : Activity}
    (h : build.work job (build.movesFrom point) state = some (activity, state')) :
    ∃ ws, Stride build renderer fileName separator point job state.workspace activity ws ∧
      state' = { state with workspace := ws } := by
  rw [Build.movesFrom_eq standard] at h
  cases point <;> simp only [Waypoint.ahead, Build.work] at h
  case reading =>
    simp only [Move.readBody] at h
    cases hr : ContentTree.readBody state.workspace.files job.node.page <;>
      simp only [hr, Option.some.injEq, Prod.mk.injEq] at h <;> obtain ⟨rfl, rfl⟩ := h
    · exact ⟨_, .unread hr, rfl⟩
    · exact ⟨_, .read hr, rfl⟩
  case skipping =>
    simp only [Stage.leaveVirtual] at h
    cases hv : job.node.page.isVirtual <;>
      simp only [hv, ↓reduceIte, Bool.false_eq_true, Option.some.injEq, Prod.mk.injEq] at h <;>
      obtain ⟨rfl, rfl⟩ := h
    · exact ⟨_, .keep hv, rfl⟩
    · exact ⟨_, .leave hv, rfl⟩
  case expanding =>
    simp only [Stage.replaceCalls] at h
    rcases hr : build.site.registry.expand state.workspace.files
      (Stage.pageInfo build.site job.node) job.text with (error | _) | text <;>
      simp only [hr, Option.some.injEq, Prod.mk.injEq] at h <;> obtain ⟨rfl, rfl⟩ := h
    · exact ⟨_, .unexpanded hr, rfl⟩
    · exact ⟨_, .expansionCrash hr, rfl⟩
    · exact ⟨_, .expand hr, rfl⟩
  case contributing =>
    simp only [Stage.contribute] at h
    rcases hg : Stage.gatherer? build.site job with _ | parent
    · simp only [hg, Option.some.injEq, Prod.mk.injEq] at h
      obtain ⟨rfl, rfl⟩ := h
      exact ⟨_, .alone hg, rfl⟩
    · by_cases hl : Stage.lastDocument? build.site.tree parent = some job.node.position <;>
        simp only [hg, hl, ↓reduceIte, Option.some.injEq, Prod.mk.injEq] at h <;>
        obtain ⟨rfl, rfl⟩ := h
      · exact ⟨_, .lead hg hl, rfl⟩
      · exact ⟨_, .contribute hg hl, rfl⟩
  case awaiting =>
    simp only [Stage.awaitSiblings] at h
    rcases hg : Stage.gatherer? build.site job with _ | parent
    · simp only [hg, Option.some.injEq, Prod.mk.injEq] at h
      obtain ⟨rfl, rfl⟩ := h
      exact ⟨_, .pass hg, rfl⟩
    · cases hs : state.workspace.standing job <;>
        simp only [hg, hs, Option.some.injEq, Prod.mk.injEq, reduceCtorEq] at h <;>
        obtain ⟨rfl, rfl⟩ := h
      · exact ⟨_, .follow hg hs, rfl⟩
      · exact ⟨_, .meet hg hs, rfl⟩
  case gathering =>
    simp only [Stage.gather] at h
    rcases hg : Stage.gatherer? build.site job with _ | parent <;>
      simp only [hg, Option.some.injEq, Prod.mk.injEq] at h <;> obtain ⟨rfl, rfl⟩ := h
    · exact ⟨_, .own hg, rfl⟩
    · exact ⟨_, .gather hg, rfl⟩
  case rendering =>
    simp only [Stage.renderText] at h
    rcases hr : renderer.render build.site job state.workspace.cache with
      (reason | _) | ⟨text, cache⟩ <;>
      simp only [hr, Option.some.injEq, Prod.mk.injEq] at h <;> obtain ⟨rfl, rfl⟩ := h
    · exact ⟨_, .unrendered hr, rfl⟩
    · exact ⟨_, .renderCrash hr, rfl⟩
    · exact ⟨_, .render hr, rfl⟩
  case preparing =>
    delta Stage.makeDirectory at h
    dsimp only at h
    rcases hd : (job.outputFile build.site).parent? with _ | directory
    · simp only [hd, Option.some.injEq, Prod.mk.injEq] at h
      obtain ⟨rfl, rfl⟩ := h
      exact ⟨_, .rootFile hd, rfl⟩
    · rcases hc : state.workspace.files.createDirectories directory with ⟨files, _ | error⟩ <;>
        simp only [hd, hc, Option.some.injEq, Prod.mk.injEq] at h <;> obtain ⟨rfl, rfl⟩ := h
      · exact ⟨_, .prepare hd hc, rfl⟩
      · exact ⟨_, .unprepared hd hc, rfl⟩
  case writing =>
    delta Stage.writeFile at h
    rcases hw : state.workspace.files.write (job.outputFile build.site) job.text.toUTF8 with
      error | files <;>
      simp only [hw, Option.some.injEq, Prod.mk.injEq] at h <;> obtain ⟨rfl, rfl⟩ := h
    · exact ⟨_, .unwritten hw, rfl⟩
    · exact ⟨_, .write hw, rfl⟩
  case noting =>
    simp only [Stage.noteOutput, Option.some.injEq, Prod.mk.injEq] at h
    obtain ⟨rfl, rfl⟩ := h
    exact ⟨_, .note, rfl⟩
  case through =>
    simp only [Option.some.injEq, Prod.mk.injEq] at h
    obtain ⟨rfl, rfl⟩ := h
    exact ⟨_, .done, rfl⟩

theorem work_cons_eq_none_iff {name : String} {move : Move} {moves : List NamedMove} {job : Job}
    {state : BuildState} :
    build.work job ((name, move) :: moves) state = none ↔
      move build.site job state.workspace = .blocked := by
  simp only [Build.work]
  cases h : move build.site job state.workspace <;> simp

/-- A page waits only for its siblings. -/
theorem work_eq_none_iff (standard : build.Standard renderer fileName separator)
    {point : Waypoint} {job : Job} {state : BuildState} :
    build.work job (build.movesFrom point) state = none ↔
      point = .awaiting ∧ (Stage.gatherer? build.site job).isSome = true ∧
        state.workspace.standing job = .waiting := by
  rw [Build.movesFrom_eq standard]
  cases point <;>
    simp only [Waypoint.ahead, work_cons_eq_none_iff, reduceCtorEq, false_and, true_and, iff_false]
  case awaiting =>
    unfold Stage.awaitSiblings
    cases Stage.gatherer? build.site job <;> cases state.workspace.standing job <;> simp
  case reading => unfold Move.readBody; split <;> simp
  case skipping => unfold Stage.leaveVirtual; split <;> simp
  case expanding => unfold Stage.replaceCalls; split <;> simp
  case contributing => unfold Stage.contribute; repeat' (first | split | simp)
  case gathering => unfold Stage.gather; split <;> simp
  case rendering => unfold Stage.renderText; split <;> simp
  case preparing =>
    delta Stage.makeDirectory
    dsimp only
    split
    · simp
    · rename_i directory _
      cases (state.workspace.files.createDirectories directory).2 <;> simp
  case writing => delta Stage.writeFile; split <;> simp
  case noting => simp [Stage.noteOutput]
  case through => simp [Build.work]

end

end CourseSite
