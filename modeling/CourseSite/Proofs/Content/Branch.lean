/-
  What the loader fills the list of nodes with, as branches.

  * `Branch`: a page and the branches below it in order; `number`: its nodes, numbered so that
    each comes before the nodes below it, and before its later siblings.
  * `entryBranch`, `directoryBranch`: the branches of an entry and of a directory.
  * `loadEntries_eq`, `loadDirectory_fills`: the loader, which adds one node after another and
    lists it with its parent once the nodes below it are there, adds just the nodes of these
    branches.
  * `load_eq_ok_iff`: hence a tree that is loaded is made from a branch.
-/
import CourseSite.Content.Load
import CourseSite.Proofs.Files.Writing

namespace CourseSite

/-! ## Branches -/

/-- A page and the branches below it. -/
inductive Branch where
  | mk (page : Page) (branches : List Branch)

namespace Branch

/-- The page at the head of a branch. -/
def page : Branch → Page
  | mk page _ => page

/-- The branches below the head. -/
def branches : Branch → List Branch
  | mk _ branches => branches

mutual

/-- The number of pages of a branch. -/
def size : Branch → Nat
  | mk _ branches => 1 + sizes branches

/-- The number of pages of some branches. -/
def sizes : List Branch → Nat
  | [] => 0
  | branch :: branches => size branch + sizes branches

end

theorem size_pos : ∀ branch : Branch, 0 < branch.size
  | .mk _ _ => by simp only [size]; omega

end Branch

namespace ContentTree

/-! ## Numbering -/

/-- The numbers of the heads of branches that are numbered from `next` on. -/
def headIds (next : Nat) : List Branch → List Nat
  | [] => []
  | branch :: branches => next :: headIds (next + branch.size) branches

mutual

/-- The nodes of a branch whose head has the number `id`. -/
def number (id : Nat) (parent : Option Nat) (position : Nat) : Branch → List Node
  | .mk page branches =>
    ⟨id, page, headIds (id + 1) branches, parent, position⟩ ::
      numberAll (id + 1) id 0 branches

/-- The nodes of the branches below `parent` that are numbered from `next` on. -/
def numberAll (next parent position : Nat) : List Branch → List Node
  | [] => []
  | branch :: branches =>
    number next (some parent) position branch ++
      numberAll (next + branch.size) parent (position + 1) branches

end

/-- The pages of a branch. -/
def ofBranch (branch : Branch) (sourceRoot : Path) : ContentTree :=
  ⟨number 0 none 0 branch, sourceRoot⟩

mutual

theorem length_number (id : Nat) (parent : Option Nat) (position : Nat) :
    ∀ branch, (number id parent position branch).length = branch.size
  | .mk _ branches => by
    simp only [number, Branch.size, List.length_cons, length_numberAll (id + 1) id 0 branches]
    omega

theorem length_numberAll (next parent position : Nat) :
    ∀ branches, (numberAll next parent position branches).length = Branch.sizes branches
  | [] => rfl
  | branch :: branches => by
    simp only [numberAll, Branch.sizes, List.length_append,
      length_number next (some parent) position branch,
      length_numberAll (next + branch.size) parent (position + 1) branches]

end

/-! ## The branches of a directory -/

/-- The entries of a directory, its own page left out. -/
def others (entries : List String) : List String := entries.filter (· ≠ ContentFormat.defaultEntry)

theorem mem_others_iff {entry : String} {entries : List String} :
    entry ∈ others entries ↔ entry ∈ entries ∧ entry ≠ ContentFormat.defaultEntry := by
  simp [others]

section
variable (reader : Yaml.Reader) (fs : FileSystem) (format : ContentFormat) (directory : Path)
  (place : Placement)
  (descend : Path → List String → Placement → Except LoadError Branch)

/-- Where the page of an entry goes. -/
def entryPlacement (entry : String) : Placement := place.below entry (format.slug entry)

/-- The branch of one entry of a directory, where `descend` gives that of a directory. -/
def entryBranch (entry : String) : Except LoadError Branch :=
  (resolve fs format directory entry).bind fun
    | .document path =>
      (documentPage reader fs path (entryPlacement format place entry) false).map fun page =>
        .mk page []
    | .directory path =>
      (readManifest reader fs format path).bind fun entries =>
        descend path entries (entryPlacement format place entry)

/-- The branches of the entries of a directory behind the names `seen`. -/
def entryBranches (seen : List String) : List String → Except LoadError (List Branch)
  | [] => .ok []
  | entry :: entries =>
    if seen.contains (format.slug entry) then
      .error (.invalid (directory.join ⟨format.manifest⟩) (.sameAddress entry))
    else
      (entryBranch reader fs format directory place descend entry).bind fun branch =>
        (entryBranches (format.slug entry :: seen) entries).map (branch :: ·)

end

/-- The branch of a directory with the given entries, at most `fuel` directories deep. -/
def directoryBranch (reader : Yaml.Reader) (fs : FileSystem) (format : ContentFormat) :
    Nat → Path → List String → Placement → Except LoadError Branch
  | 0, directory, _, _ => .error (.missingEntry directory)
  | fuel + 1, directory, entries, place =>
    (directoryPage reader fs format directory entries place).bind fun page =>
      (entryBranches reader fs format directory place (directoryBranch reader fs format fuel) []
        (others entries)).map (.mk page)

/-! ## Filling with branches -/

section
variable {reader : Yaml.Reader} {fs : FileSystem} {format : ContentFormat} {directory : Path}
  {place : Placement}
  {fill : List Node → Path → List String → Placement → Option Nat → Nat →
    Except LoadError (List Node)}
  {descend : Path → List String → Placement → Except LoadError Branch}

/-- One function adds the nodes of the branch that another one gives. -/
def Fills (fill : List Node → Path → List String → Placement → Option Nat → Nat →
      Except LoadError (List Node))
    (descend : Path → List String → Placement → Except LoadError Branch) : Prop :=
  ∀ nodes directory entries place parent position,
    fill nodes directory entries place parent position =
      (descend directory entries place).map fun branch =>
        nodes ++ number nodes.length parent position branch

theorem addChild_append (front back : List Node) (node : Node) (child : Nat) :
    addChild (front ++ node :: back) front.length child =
      front ++ { node with children := node.children ++ [child] } :: back := by
  induction front with
  | nil => rfl
  | cons first front ih => exact congrArg (first :: ·) ih

/-- One entry: the nodes of its branch are added, and then its head is listed. -/
theorem loadEntries_cons (hfill : Fills fill descend) (id position : Nat) (nodes : List Node)
    (seen : List String) (entry : String) (entries : List String) :
    loadEntries reader fs format directory place id fill seen position nodes (entry :: entries) =
      if seen.contains (format.slug entry) then
        .error (.invalid (directory.join ⟨format.manifest⟩) (.sameAddress entry))
      else
        (entryBranch reader fs format directory place descend entry).bind fun branch =>
          loadEntries reader fs format directory place id fill (format.slug entry :: seen)
            (position + 1)
            (addChild (nodes ++ number nodes.length (some id) position branch) id nodes.length)
            entries := by
  rw [loadEntries, entryBranch]
  simp only [bind, Except.bind, throw, throwThe, MonadExceptOf.throw]
  split
  · rfl
  rcases resolve fs format directory entry with _ | (path | path)
  · rfl
  · dsimp only [entryPlacement]
    cases documentPage reader fs path (place.below entry (format.slug entry)) false <;> rfl
  · dsimp only [entryPlacement]
    cases readManifest reader fs format path with
    | error => rfl
    | ok entries =>
      dsimp only
      rw [hfill]
      cases descend path entries (place.below entry (format.slug entry)) <;> rfl

/-- The entries of a directory, whose node comes behind `front` and has children already: the
    nodes of their branches are added, and their heads are listed. -/
theorem loadEntries_eq (hfill : Fills fill descend) (front : List Node) (node : Node)
    {back : List Node} {seen entries : List String} {position : Nat} :
    loadEntries reader fs format directory place front.length fill seen position
        (front ++ node :: back) entries =
      (entryBranches reader fs format directory place descend seen entries).map fun branches =>
        let next := front.length + 1 + back.length
        front ++ { node with children := node.children ++ headIds next branches } ::
          (back ++ numberAll next front.length position branches) := by
  induction entries generalizing node back seen position with
  | nil => simp [loadEntries, entryBranches, Except.map, headIds, numberAll]
  | cons entry entries ih =>
    rw [loadEntries_cons hfill, entryBranches]
    split
    · rfl
    cases entryBranch reader fs format directory place descend entry with
    | error => rfl
    | ok branch =>
      have hlength : (front ++ node :: back).length = front.length + 1 + back.length := by
        simp only [List.length_append, List.length_cons]; omega
      dsimp only [Except.bind]
      rw [List.append_assoc, List.cons_append, addChild_append, ih, hlength, List.length_append,
        length_number]
      cases entryBranches reader fs format directory place descend (format.slug entry :: seen)
        entries with
      | error => rfl
      | ok branches =>
        simp only [Except.map, headIds, numberAll, List.append_assoc, List.singleton_append,
          ← Nat.add_assoc]

/-- **The loader adds the nodes of the branch of a directory.** -/
theorem loadDirectory_fills (reader : Yaml.Reader) (fs : FileSystem) (format : ContentFormat) :
    ∀ fuel, Fills (loadDirectory reader fs format fuel) (directoryBranch reader fs format fuel)
  | 0 => fun _ _ _ _ _ _ => rfl
  | fuel + 1 => fun nodes directory entries place parent position => by
    rw [loadDirectory, directoryBranch]
    cases directoryPage reader fs format directory entries place with
    | error => rfl
    | ok page =>
      simp only [bind, Except.bind]
      rw [push, loadEntries_eq (loadDirectory_fills reader fs format fuel), others]
      cases entryBranches reader fs format directory place (directoryBranch reader fs format fuel)
        [] (entries.filter (· ≠ ContentFormat.defaultEntry)) <;> rfl

/-- Where the page of the root goes. -/
def rootPlacement (root : Path) : Placement :=
  ⟨ContentFormat.defaultEntry, root.fileName?.getD "home", "/", ⟨""⟩⟩

/-- **Trees.** A tree that is loaded is made from the branch of the root. -/
theorem load_eq_ok_iff {root : Path} {tree : ContentTree} :
    load reader fs format root = .ok tree ↔
      fs.isDirectory root = true ∧ ∃ entries branch,
        readManifest reader fs format root = .ok entries ∧ entries ≠ [] ∧
        directoryBranch reader fs format (fs.height + 1) root entries (rootPlacement root) =
          .ok branch ∧
        tree = ofBranch branch root := by
  rw [FileSystem.isDirectory_eq_true_iff, load]
  simp only [bind, Except.bind, pure, Except.pure, throw, throwThe, MonadExceptOf.throw]
  rcases fs.locate root with e | ⟨location, data | -⟩
  · simp
  · simp
  · dsimp only
    cases readManifest reader fs format root with
    | error => simp
    | ok entries =>
      cases entries with
      | nil => simp
      | cons entry entries =>
        simp only [List.isEmpty_cons, Bool.false_eq_true, if_false]
        rw [loadDirectory_fills, rootPlacement]
        cases hbranch : directoryBranch reader fs format (fs.height + 1) root (entry :: entries)
          ⟨ContentFormat.defaultEntry, root.fileName?.getD "home", "/", ⟨""⟩⟩ with
        | error => simp [Except.map, hbranch]
        | ok branch => simp [Except.map, hbranch, ofBranch, eq_comm]

end

end ContentTree

end CourseSite
