/-
  The way of a page through its stages.

  * `Pipeline`: stages in order; `Pipeline.standard` is the one of a site.
  * `Pipeline.run`: one page through all stages with nothing going on beside it.
-/
import CourseSite.Site.Renderer
import CourseSite.Text.Quoted

namespace CourseSite

/-- Stages in order. -/
structure Pipeline where
  stages : List Stage

/-- A move with the name of its stage. -/
abbrev NamedMove := String × Move

/-- How the way of a page ends. -/
inductive Ending where
  /-- With a text, perhaps before the last stage. -/
  | finished (text : String) (stoppedBy : Option String)
  | failed (error : PageError)
  | crashed
  | blocked

namespace Pipeline

/-- The stages of a site. -/
def standard (renderer : Renderer) (fileName separator : String) : Pipeline :=
  ⟨[.skipVirtual, .expandDirectives, .aggregate fileName separator, .render renderer, .write]⟩

/-- The number of stages. -/
def size (pipeline : Pipeline) : Nat := pipeline.stages.length

/-- The names of the stages in order. -/
def names (pipeline : Pipeline) : List String := pipeline.stages.map (·.name)

/-- The pipeline as it is shown to programmers. -/
def describe (pipeline : Pipeline) : String :=
  "Pipeline \x7b stages: " ++ Text.quotedList pipeline.names ++ " \x7d"

/-- The moves of all stages in order. -/
def moves (pipeline : Pipeline) : List NamedMove :=
  pipeline.stages.flatMap fun stage => stage.moves.map fun move => (stage.name, move)

/-- A page through some moves: the ending, and the page and the workspace as the last
    move that was made left them. -/
def runMoves (site : Site) : List NamedMove → Job → Workspace → Ending × Job × Workspace
  | [], job, workspace => (.finished job.text none, job, workspace)
  | (name, move) :: moves, job, workspace =>
    match move site job workspace with
    | .proceed job workspace => runMoves site moves job workspace
    | .stop text workspace => (.finished text (some name), job, workspace)
    | .fail error workspace => (.failed error, job, workspace)
    | .crash => (.crashed, job, workspace)
    | .blocked => (.blocked, job, workspace)

/-- A page through all stages. -/
def run (pipeline : Pipeline) (site : Site) (job : Job) (workspace : Workspace) :
    Ending × Job × Workspace :=
  runMoves site pipeline.moves job workspace

end Pipeline

end CourseSite
