/-
  The stages that a page passes on its way to the output.

  A stage is a named list of moves.  A move changes the page, its text and the
  workspace in one go; between two moves other pages may move on.

  * `Site`, `Job`, `Workspace`: what a build leaves as it is, one page on its way,
    and what all pages share.
  * `Verdict`: what comes of a move.
  * `Stage.skipVirtual`, `expandDirectives`, `aggregate`, `write`: the stages
    that need no renderer.
-/
import CourseSite.Cache.Store
import CourseSite.Site.Barrier
import CourseSite.Site.Error
import CourseSite.Site.Tokens

namespace CourseSite

open Directive (PageInfo Registry)

/-! ## Pages on their way -/

/-- What stays the same for all pages of a build. -/
structure Site where
  tree : ContentTree
  registry : Registry
  cache : CacheHandle
  /-- The directory that the site is written to. -/
  outputRoot : Path

/-- A page on its way through the stages. -/
structure Job where
  node : Node
  /-- The page takes part in the barrier of its parent. -/
  meets : Bool
  tokens : Tokens
  /-- The output file, seen from the output directory. -/
  outputPath : Path
  text : String

namespace Job

/-- A page at the start of its way. -/
def start (site : Site) (node : Node) (meets : Bool) (text : String) : Job :=
  ⟨node, meets, Tokens.ofNode site.tree node, node.page.output, text⟩

/-- The output file. -/
def outputFile (job : Job) (site : Site) : Path := site.outputRoot.join job.outputPath

end Job

/-! ## The workspace -/

/-- What the pages of a build share.  The lists go by the numbers of the nodes. -/
structure Workspace where
  files : FileSystem
  cache : CacheStore
  /-- The output last written for each node. -/
  rendered : List (Option String)
  /-- The barrier of the children of each node. -/
  barriers : List Barrier

namespace Workspace

/-- The workspace before anything was built from a tree. -/
def ofTree (tree : ContentTree) (files : FileSystem) (cache : CacheStore) : Workspace :=
  ⟨files, cache, tree.nodes.map fun _ => none, tree.nodes.map fun node =>
    Barrier.ofCount node.children.length⟩

/-- The workspace with fresh barriers. -/
def withFreshBarriers (workspace : Workspace) (tree : ContentTree) : Workspace :=
  { workspace with barriers := tree.nodes.map fun node => Barrier.ofCount node.children.length }

/-- The barrier that a page takes part in. -/
def barrier? (workspace : Workspace) (job : Job) : Option Barrier :=
  if job.meets then job.node.parent.bind fun id => workspace.barriers[id]? else none

/-- The workspace with the barrier of a page changed. -/
def changeBarrier (workspace : Workspace) (node : Node) (change : Barrier → Barrier) :
    Workspace :=
  match node.parent with
  | none => workspace
  | some id => { workspace with barriers := workspace.barriers.modify id change }

/-- The workspace with the output of a node noted or forgotten. -/
def note (workspace : Workspace) (node : Node) (output : Option String) : Workspace :=
  { workspace with rendered := workspace.rendered.set node.id output }

/-- What a page finds out about the siblings before it. -/
def standing (workspace : Workspace) (job : Job) : Standing :=
  match workspace.barrier? job with
  | none => .ready
  | some barrier => barrier.standing job.node.position

end Workspace

/-! ## Moves -/

/-- What comes of a move. -/
inductive Verdict where
  /-- The page goes on. -/
  | proceed (job : Job) (workspace : Workspace)
  /-- The page ends here without an error. -/
  | stop (text : String) (workspace : Workspace)
  /-- The page ends here with an error. -/
  | fail (error : PageError) (workspace : Workspace)
  | crash
  /-- The move has to wait for a sibling that has not arrived. -/
  | blocked

/-- A step of a page in one go. -/
abbrev Move := Site → Job → Workspace → Verdict

/-- A named part of the way. -/
structure Stage where
  name : String
  moves : List Move

/-- The text of the page is read from its document. -/
def Move.readBody : Move := fun _ job workspace =>
  match ContentTree.readBody workspace.files job.node.page with
  | .error error => .fail (.source error) workspace
  | .ok text => .proceed { job with text := text } workspace

namespace Stage

/-! ## Stages -/

/-- A page without a document ends here. -/
def leaveVirtual : Move := fun _ job workspace =>
  if job.node.page.isVirtual then .stop "" workspace else .proceed job workspace

/-- A directory without a page of its own goes no further. -/
def skipVirtual : Stage where
  name := "skip-virtual"
  moves := [leaveVirtual]

/-- What a page tells its directives. -/
def pageInfo (site : Site) (node : Node) : PageInfo where
  title := node.page.title
  url := node.page.url
  source := node.page.source
  baseDirectory := node.page.sourceDirectory?.getD site.tree.sourceRoot
  line := 0

/-- Every call in the text is replaced by what its extension replies. -/
def replaceCalls : Move := fun site job workspace =>
  match site.registry.expand workspace.files (pageInfo site job.node) job.text with
  | .ok text => .proceed { job with text := text } workspace
  | .error (.error error) => .fail (.directive error) workspace
  | .error .crash => .crash

/-- The directives of the page are replaced. -/
def expandDirectives : Stage where
  name := "expand-directives"
  moves := [replaceCalls]

/-! ### Aggregation -/

/-- The parent, if it gathers the texts of its children and the page takes part in
    that. -/
def gatherer? (site : Site) (job : Job) : Option Node :=
  if job.meets then (site.tree.parent? job.node).filter (·.page.isAggregate) else none

/-- The place of the last child that has a document. -/
def lastDocument? (tree : ContentTree) (parent : Node) : Option Nat :=
  ((tree.children parent).zipIdx.reverse.find? fun (child, _) => !child.page.isVirtual).map (·.2)

/-- The page leaves its text with its siblings; only the last one goes on. -/
def contribute : Move := fun site job workspace =>
  match gatherer? site job with
  | none => .proceed job workspace
  | some parent =>
    let workspace := workspace.changeBarrier job.node
      (·.insertFragment job.node.position job.text)
    if lastDocument? site.tree parent = some job.node.position then .proceed job workspace
    else .stop "" workspace

/-- The page that goes on waits for the siblings before it, and fails if one of them did. -/
def awaitSiblings : Move := fun site job workspace =>
  match gatherer? site job with
  | none => .proceed job workspace
  | some _ =>
    match workspace.standing job with
    | .waiting => .blocked
    | .failed => .fail .siblingFailed workspace
    | .ready => .proceed job workspace

/-- The page takes the texts that it and its siblings left to a file in the directory
    of its parent, under the title and the address of the parent. -/
def gather (fileName separator : String) : Move := fun site job workspace =>
  match gatherer? site job with
  | none => .proceed job workspace
  | some parent =>
    let text := ((workspace.barrier? job).map fun barrier => (barrier.joinFragments separator).1)
    let directory := parent.page.output.parent?.getD ⟨""⟩
    .proceed
      { job with
        text := text.getD ""
        outputPath := directory.join ⟨fileName⟩
        tokens := Dictionary.insert "url" (.string parent.page.url)
          (Dictionary.insert "title" (.string parent.page.title) job.tokens) }
      workspace

/-- The texts of the children of an aggregate page go into one file. -/
def aggregate (fileName separator : String) : Stage where
  name := "aggregate"
  moves := [contribute, awaitSiblings, gather fileName separator]

/-! ### Writing -/

/-- The directory of the output file is made. -/
def makeDirectory : Move := fun site job workspace =>
  match (job.outputFile site).parent? with
  | none => .proceed job workspace
  | some directory =>
    let (files, error?) := workspace.files.createDirectories directory
    let workspace := { workspace with files := files }
    match error? with
    | some error => .fail (.io directory error) workspace
    | none => .proceed job workspace

/-- The text is written to the output file. -/
def writeFile : Move := fun site job workspace =>
  match workspace.files.write (job.outputFile site) job.text.toUTF8 with
  | .error error => .fail (.io (job.outputFile site) error) workspace
  | .ok files => .proceed job { workspace with files := files }

/-- The text is noted as the output of the node. -/
def noteOutput : Move := fun _ job workspace =>
  .proceed job (workspace.note job.node (some job.text))

/-- The page is written. -/
def write : Stage where
  name := "write"
  moves := [makeDirectory, writeFile, noteOutput]

end Stage

end CourseSite
