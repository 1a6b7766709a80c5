/-
  A build: any number of workers, each taking one page after the other.

  The pages are taken in the order of the tree.  A page stays with its worker to
  its end, and arrives at the barrier of its parent whatever becomes of it.  The
  first page that fails, and any crash, keep further pages from being taken; so
  does a cancellation, which is looked for before each page.

  * `Activity`: where one worker stands.
  * `BuildState`: what the workers share, and where they stand.
  * `Build.step`: the next step of one worker, if it has one; a worker whose page
    waits for its siblings has none.
  * `Build.run`: all steps to the end, always of the first worker that has one.
  * `Build.outcome`: what the build comes to.
-/
import CourseSite.Site.Pipeline

namespace CourseSite

/-! ## What a build needs -/

/-- What a build does not change. -/
structure Build where
  site : Site
  pipeline : Pipeline
  workers : Nat
  /-- Someone is told of every page that is done. -/
  reports : Bool
  /-- Given the number of pages done and of all pages, the one who is told asks for a
      cancellation. -/
  cancelsAt : Nat → Nat → Bool

namespace Build

/-- The number of pages. -/
def total (build : Build) : Nat := build.site.tree.preorder.length

/-- The number of workers in use: at least one, and no more than there are pages. -/
def crew (build : Build) : Nat := max 1 (min build.workers (max build.total 1))

/-- The moves of a page: it is read, and then passes the stages. -/
def moves (build : Build) : List NamedMove := ("", Move.readBody) :: build.pipeline.moves

end Build

/-! ## The state of a build -/

/-- Where a worker stands. -/
inductive Activity where
  /-- About to look whether there is a reason to stop. -/
  | looking
  /-- About to take the next page. -/
  | taking
  /-- With a page that has some moves left. -/
  | working (job : Job) (moves : List NamedMove)
  /-- With a page that came to an end. -/
  | ending (node : Node) (stopped : Bool)
  /-- With a page that failed. -/
  | failing (node : Node) (error : PageError)
  /-- With the first page that failed, whose error is to be kept. -/
  | keeping (node : Node) (error : PageError)
  /-- With a page about to arrive at the barrier of its parent. -/
  | arriving (node : Node) (success : Bool)
  /-- About to count the page. -/
  | counting
  /-- About to report the number of pages done. -/
  | reporting (done : Nat)
  /-- Crashed, with a page about to arrive. -/
  | falling (node : Node)
  /-- Crashed, about to keep further pages from being taken. -/
  | alarming
  /-- Gone, perhaps by a crash. -/
  | gone (crashed : Bool)

/-- The worker crashed. -/
def Activity.isCrash : Activity → Bool
  | .gone crashed => crashed
  | _ => false

/-- The state of a build. -/
structure BuildState where
  workspace : Workspace
  /-- How often a worker went to take a page. -/
  cursor : Nat
  /-- The number of pages that are done. -/
  completed : Nat
  /-- The number of pages that a stage stopped. -/
  stopped : Nat
  /-- No further page is taken. -/
  failed : Bool
  cancelled : Bool
  /-- The first page that failed, and why. -/
  firstError : Option (Node × PageError)
  /-- The numbers of pages done and of all pages, as they were reported. -/
  reports : List (Nat × Nat)
  workers : List Activity

namespace Build

/-- The state before the first step. -/
def start (build : Build) (workspace : Workspace) (cancelled : Bool) : BuildState where
  workspace := workspace.withFreshBarriers build.site.tree
  cursor := 0
  completed := 0
  stopped := 0
  failed := false
  cancelled := cancelled
  firstError := none
  reports := []
  workers := List.replicate build.crew .looking

/-! ## Steps -/

/-- The next page is taken, if there is one left: its earlier output is forgotten. -/
def take (build : Build) (state : BuildState) : Activity × BuildState :=
  let next := build.site.tree.preorder[state.cursor]?.bind build.site.tree.node?
  let state := { state with cursor := state.cursor + 1 }
  match next with
  | none => (.gone false, state)
  | some node =>
    (.working (Job.start build.site node node.parent.isSome "") build.moves,
      { state with workspace := state.workspace.note node none })

/-- The next move of a page; none while it has to wait. -/
def work (build : Build) (job : Job) (moves : List NamedMove) (state : BuildState) :
    Option (Activity × BuildState) :=
  match moves with
  | [] => some (.ending job.node false, state)
  | (_, move) :: moves =>
    match move build.site job state.workspace with
    | .proceed job workspace => some (.working job moves, { state with workspace := workspace })
    | .stop _ workspace => some (.ending job.node true, { state with workspace := workspace })
    | .fail error workspace =>
      some (.failing job.node error, { state with workspace := workspace })
    | .crash => some (.falling job.node, state)
    | .blocked => none

/-- A page arrives at the barrier of its parent. -/
def arrive (node : Node) (success : Bool) (state : BuildState) : BuildState :=
  { state with workspace := state.workspace.changeBarrier node (·.arrive node.position success) }

/-- The next step of a worker that stands somewhere; none if it is gone or has to
    wait. -/
def advance (build : Build) (state : BuildState) : Activity → Option (Activity × BuildState)
  | .looking => some (if state.failed || state.cancelled then .gone false else .taking, state)
  | .taking => some (build.take state)
  | .working job moves => build.work job moves state
  | .ending node stopped =>
    some (.arriving node true, { state with stopped := state.stopped + stopped.toNat })
  | .failing node error =>
    if state.failed then some (.arriving node false, state)
    else some (.keeping node error, { state with failed := true })
  | .keeping node error =>
    some (.arriving node false, { state with firstError := some (node, error) })
  | .arriving node success => some (.counting, arrive node success state)
  | .counting =>
    some (.reporting (state.completed + 1), { state with completed := state.completed + 1 })
  | .reporting done =>
    some (.looking,
      if build.reports then
        { state with
          reports := state.reports ++ [(done, build.total)]
          cancelled := state.cancelled || build.cancelsAt done build.total }
      else state)
  | .falling node => some (.alarming, arrive node false state)
  | .alarming => some (.gone true, { state with failed := true })
  | .gone _ => none

/-- The next step of a worker. -/
def step (build : Build) (worker : Nat) (state : BuildState) : Option BuildState := do
  let activity ← state.workers[worker]?
  let (activity, state) ← build.advance state activity
  return { state with workers := state.workers.set worker activity }

/-- A cancellation from outside. -/
def cancel (state : BuildState) : BuildState := { state with cancelled := true }

/-! ## Running -/

/-- The next step of the first worker that has one, from worker `worker` on. -/
def firstStep (build : Build) (state : BuildState) : Nat → Nat → Option BuildState
  | 0, _ => none
  | count + 1, worker =>
    match build.step worker state with
    | some state => some state
    | none => firstStep build state count (worker + 1)

/-- At most `fuel` steps, until no worker has one. -/
def runWithin (build : Build) : Nat → BuildState → BuildState
  | 0, state => state
  | fuel + 1, state =>
    match build.firstStep state state.workers.length 0 with
    | none => state
    | some state => runWithin build fuel state

/-- A bound on the number of steps: for every page its moves and nine more, and four
    for every worker to go. -/
def stepBound (build : Build) : Nat :=
  build.total * (build.moves.length + 9) + 4 * build.crew

/-- All steps of a build. -/
def run (build : Build) (workspace : Workspace) (cancelled : Bool) : BuildState :=
  build.runWithin build.stepBound (build.start workspace cancelled)

/-! ## Outcomes -/

/-- The counts of a build. -/
structure Stats where
  total : Nat
  processed : Nat
  stopped : Nat
deriving DecidableEq

/-- How a build ends without an error. -/
inductive Outcome where
  | completed (stats : Stats)
  /-- A cancellation kept some pages from being taken. -/
  | cancelled (stats : Stats)

/-- The counts of a build. -/
def Outcome.stats : Outcome → Stats
  | .completed stats => stats
  | .cancelled stats => stats

/-- The build was cancelled. -/
def Outcome.isCancelled : Outcome → Bool
  | .completed _ => false
  | .cancelled _ => true

/-- What a build comes to when all workers are gone: a crash counts more than the
    failure of a page, and that more than a cancellation. -/
def outcome (build : Build) (state : BuildState) : Except BuildError Outcome :=
  if state.workers.any Activity.isCrash then .error .worker
  else
    match state.firstError with
    | some (node, error) => .error (.page node.page.url error)
    | none =>
      let stats : Stats := ⟨build.total, state.completed, state.stopped⟩
      if state.completed < build.total ∧ state.cancelled then .ok (.cancelled stats)
      else .ok (.completed stats)

end Build

end CourseSite
