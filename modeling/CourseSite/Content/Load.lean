/-
  Loading the pages of a course from a directory.

  Every directory carries a manifest that lists its entries in order.  The entry
  `default` is the page of the directory itself; any other one is a document,
  with or without its extension, or a directory.

  * `ContentFormat`: the name of the manifests and the extension of the documents.
  * `LoadError`: why a directory cannot be loaded.
  * `ContentTree.load`: the tree below a directory, however YAML is read.
-/
import CourseSite.Content.FrontMatter
import CourseSite.Content.Manifest
import CourseSite.Content.Title
import CourseSite.Content.Tree
import CourseSite.Files.FileSystem

namespace CourseSite

/-! ## Errors -/

/-- What is wrong with a file or directory that is there. -/
inductive ContentProblem where
  | notADirectory
  | manifest (problem : Manifest.Problem)
  | frontMatter (problem : FrontMatter.Problem)
  /-- Two entries of a directory have one address. -/
  | sameAddress (entry : String)
  /-- An entry names both a document and a directory. -/
  | ambiguous (entry : String)
deriving DecidableEq

/-- The text of a problem. -/
def ContentProblem.message : ContentProblem → String
  | .notADirectory => "content root is not a directory"
  | .manifest problem => problem.message
  | .frontMatter problem => problem.message
  | .sameAddress entry => s!"entry \x60{entry}\x60 maps to the same URL as an earlier entry"
  | .ambiguous entry => s!"entry \x60{entry}\x60 matches both a file and a directory"

/-- Why a directory cannot be loaded. -/
inductive LoadError where
  | io (path : Path) (error : FileError)
  /-- An entry names nothing. -/
  | missingEntry (path : Path)
  | missingManifest (path : Path)
  /-- The manifest of the root lists nothing. -/
  | noEntries (path : Path)
  | invalid (path : Path) (problem : ContentProblem)
deriving DecidableEq

/-- The text of an error. -/
def LoadError.message : LoadError → String
  | .io path error => "I/O error at " ++ path.text ++ ": " ++ error.message
  | .missingEntry path => "I/O error at " ++ path.text ++ ": entity not found"
  | .missingManifest path => "missing manifest " ++ path.text
  | .noEntries path => "no content entries in " ++ path.text
  | .invalid path problem => "invalid content at " ++ path.text ++ ": " ++ problem.message

/-! ## Files of a directory -/

/-- The name of the manifests and the extension of the documents, without its dot. -/
structure ContentFormat where
  manifest : String := "manifest.yaml"
  extension : String := "md"

namespace ContentFormat

/-- The entry that stands for the page of the directory itself. -/
def defaultEntry : String := "default"

/-- The name of a document with its extension. -/
def documentName (format : ContentFormat) (name : String) : String :=
  name ++ "." ++ format.extension

/-- The name of an entry in addresses: without the extension, if it has it. -/
def slug (format : ContentFormat) (entry : String) : String :=
  let ending := ("." ++ format.extension).toList
  let cs := entry.toList
  if ending.isSuffixOf cs then String.ofList (cs.take (cs.length - ending.length)) else entry

end ContentFormat

namespace ContentTree

variable (reader : Yaml.Reader) (fs : FileSystem) (format : ContentFormat)

/-- The entries that the manifest of a directory lists. -/
def readManifest (directory : Path) : Except LoadError (List String) :=
  let path := directory.join ⟨format.manifest⟩
  if !fs.isFile path then .error (.missingManifest path)
  else
    match fs.readText path with
    | .error error => .error (.io path error)
    | .ok text =>
      match Manifest.read reader text with
      | .error problem => .error (.invalid path (.manifest problem))
      | .ok entries => .ok entries

/-- The settings and the body of a document. -/
def readDocument (path : Path) : Except LoadError (Dictionary Scalar × String) :=
  match fs.readText path with
  | .error error => .error (.io path error)
  | .ok text =>
    match FrontMatter.split text with
    | .error problem => .error (.invalid path (.frontMatter problem))
    | .ok (none, body) => .ok (Dictionary.empty, body)
    | .ok (some yaml, body) =>
      match FrontMatter.parse reader yaml with
      | .error problem => .error (.invalid path (.frontMatter problem))
      | .ok metadata => .ok (metadata, body)

/-- The title of a page: the setting `title`, or the first heading, or its name. -/
def pageTitle (metadata : Dictionary Scalar) (body slug : String) : String :=
  match (Dictionary.get? metadata "title").bind Scalar.asString? with
  | some title => title
  | none => (Title.heading? body).getD (Title.ofSlug slug)

/-! ## Pages -/

/-- Where a page goes: its entry, the name its title is made of, its address, and the
    directory of its output file, seen from the output directory. -/
structure Placement where
  name : String
  slug : String
  url : String
  directory : Path

/-- The address below an address. -/
def joinUrl (parent slug : String) : String :=
  if parent = "/" then "/" ++ slug else parent ++ "/" ++ slug

/-- Where the page of an entry of a directory goes. -/
def Placement.below (place : Placement) (entry slug : String) : Placement :=
  ⟨entry, slug, joinUrl place.url slug, place.directory.join ⟨slug⟩⟩

/-- The output file of a page, seen from the output directory. -/
def Placement.output (place : Placement) : Path := place.directory.join ⟨"index.html"⟩

/-- The page of a document. -/
def documentPage (path : Path) (place : Placement) (isDefault : Bool) : Except LoadError Page :=
  (readDocument reader fs path).map fun (metadata, body) =>
    { name := place.name
      title := pageTitle metadata body place.slug
      source := some path
      output := place.output
      url := place.url
      metadata := metadata
      isDefault := isDefault }

/-- The page of a directory: its `default` entry, if it has one. -/
def directoryPage (directory : Path) (entries : List String) (place : Placement) :
    Except LoadError Page :=
  if entries.contains ContentFormat.defaultEntry then
    let path := directory.join ⟨format.documentName ContentFormat.defaultEntry⟩
    if fs.isFile path then documentPage reader fs path place true else .error (.missingEntry path)
  else
    .ok
      { name := place.name
        title := Title.ofSlug place.slug
        source := none
        output := place.output
        url := place.url
        metadata := Dictionary.empty
        isDefault := false }

/-- What an entry stands for. -/
inductive Target where
  | document (path : Path)
  | directory (path : Path)

/-- What an entry of a directory stands for: one of a document and a directory. -/
def resolve (directory : Path) (entry : String) : Except LoadError Target :=
  let exact := directory.join ⟨entry⟩
  let documented := directory.join ⟨format.documentName entry⟩
  match [exact, documented].find? fs.isFile, fs.isDirectory exact with
  | some _, true => .error (.invalid exact (.ambiguous entry))
  | some path, false => .ok (.document path)
  | none, true => .ok (.directory exact)
  | none, false => .error (.missingEntry exact)

/-! ## Trees -/

/-- The nodes with those of the entries of a directory added, behind the names `seen`.  The
    directory goes to `place` and is the node `id`, the next of whose children is number
    `position`; `descend` adds the directories among the entries. -/
def loadEntries (directory : Path) (place : Placement) (id : Nat)
    (descend : List Node → Path → List String → Placement → Option Nat → Nat →
      Except LoadError (List Node))
    (seen : List String) (position : Nat) (nodes : List Node) :
    List String → Except LoadError (List Node)
  | [] => .ok nodes
  | entry :: entries => do
    let slug := format.slug entry
    if seen.contains slug then
      throw (.invalid (directory.join ⟨format.manifest⟩) (.sameAddress entry))
    let child := nodes.length
    let filled ← match ← resolve fs format directory entry with
      | .document path =>
        (documentPage reader fs path (place.below entry slug) false).map fun page =>
          push nodes page (some id) position
      | .directory path => do
        descend nodes path (← readManifest reader fs format path) (place.below entry slug) (some id)
          position
    loadEntries directory place id descend (slug :: seen) (position + 1)
      (addChild filled id child) entries

/-- The nodes with those of a directory added, its own first, at most `fuel` directories
    deep. -/
def loadDirectory : Nat → List Node → Path → List String → Placement → Option Nat → Nat →
    Except LoadError (List Node)
  | 0, _, directory, _, _, _, _ => .error (.missingEntry directory)
  | fuel + 1, nodes, directory, entries, place, parent, position => do
    let page ← directoryPage reader fs format directory entries place
    loadEntries reader fs format directory place nodes.length (loadDirectory fuel) [] 0
      (push nodes page parent position) (entries.filter (· ≠ ContentFormat.defaultEntry))

/-- The tree below a directory.  No directory lies deeper than the longest location
    in the file system. -/
def load (root : Path) : Except LoadError ContentTree := do
  match fs.locate root with
  | .error error => throw (.io root error)
  | .ok (_, .file _) => throw (.invalid root .notADirectory)
  | .ok (_, .directory) => pure ()
  let entries ← readManifest reader fs format root
  if entries.isEmpty then throw (.noEntries (root.join ⟨format.manifest⟩))
  let place : Placement := ⟨ContentFormat.defaultEntry, root.fileName?.getD "home", "/", ⟨""⟩⟩
  let nodes ← loadDirectory reader fs format (fs.height + 1) [] root entries place none 0
  return ⟨nodes, root⟩

/-- The body of a page as its document is now. -/
def readBody (page : Page) : Except LoadError String :=
  match page.source with
  | none => .ok ""
  | some path =>
    match fs.readText path with
    | .error error => .error (.io path error)
    | .ok text => .ok (FrontMatter.strip text)

end ContentTree

end CourseSite
