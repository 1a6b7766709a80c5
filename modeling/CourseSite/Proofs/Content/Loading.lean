/-
  What the loader finds when it succeeds, one directory at a time.

  * `resolve_eq_document_iff`, `resolve_eq_directory_iff`: what an entry stands for.
  * `entryBranches_eq_ok_iff`: the branches of a directory are those of its entries, no two of
    which have one address; `directoryBranch_eq_ok_iff` puts the page of the directory on top.
-/
import Mathlib.Data.List.Forall2
import CourseSite.Proofs.Content.Branch

namespace CourseSite.ContentTree

variable {reader : Yaml.Reader} {fs : FileSystem} {format : ContentFormat} {directory : Path}
  {entry : String} {entries : List String} {place : Placement} {branch : Branch}
  {branches : List Branch}

/-! ## What an entry stands for -/

/-- The path is the document of an entry: the file of this name, or else the one with the
    extension. -/
def IsDocumentOf (fs : FileSystem) (format : ContentFormat) (directory : Path) (entry : String)
    (path : Path) : Prop :=
  fs.isFile path = true ∧
    (path = directory.join ⟨entry⟩ ∨
      fs.isFile (directory.join ⟨entry⟩) = false ∧ path = directory.join ⟨format.documentName entry⟩)

theorem find?_isFile_eq_some_iff {path : Path} :
    [directory.join ⟨entry⟩, directory.join ⟨format.documentName entry⟩].find? fs.isFile = some path ↔
      IsDocumentOf fs format directory entry path := by
  unfold IsDocumentOf
  cases hexact : fs.isFile (directory.join ⟨entry⟩) with
  | true =>
    rw [List.find?_cons_of_pos hexact, Option.some.injEq]
    constructor
    · rintro rfl; exact ⟨hexact, .inl rfl⟩
    · rintro ⟨-, rfl | ⟨h, -⟩⟩
      · rfl
      · cases h
  | false =>
    rw [List.find?_cons_of_neg (by simp [hexact])]
    cases hdoc : fs.isFile (directory.join ⟨format.documentName entry⟩) with
    | true =>
      rw [List.find?_cons_of_pos hdoc, Option.some.injEq]
      constructor
      · rintro rfl; exact ⟨hdoc, .inr ⟨rfl, rfl⟩⟩
      · rintro ⟨h, rfl | ⟨-, rfl⟩⟩
        · rw [hexact] at h; cases h
        · rfl
    | false =>
      rw [List.find?_cons_of_neg (by simp [hdoc]), List.find?_nil]
      constructor
      · nofun
      · rintro ⟨h, rfl | ⟨-, rfl⟩⟩
        · rw [hexact] at h; cases h
        · rw [hdoc] at h; cases h

theorem IsDocumentOf.unique {path path' : Path} (h : IsDocumentOf fs format directory entry path)
    (h' : IsDocumentOf fs format directory entry path') : path = path' := by
  rw [← find?_isFile_eq_some_iff] at h h'
  exact Option.some.inj (h.symm.trans h')

theorem resolve_eq_document_iff {path : Path} :
    resolve fs format directory entry = .ok (.document path) ↔
      IsDocumentOf fs format directory entry path ∧
        fs.isDirectory (directory.join ⟨entry⟩) = false := by
  rw [← find?_isFile_eq_some_iff]
  unfold resolve
  dsimp only
  cases [directory.join ⟨entry⟩, directory.join ⟨format.documentName entry⟩].find? fs.isFile <;>
    cases fs.isDirectory (directory.join ⟨entry⟩) <;> simp

theorem resolve_eq_directory_iff {path : Path} :
    resolve fs format directory entry = .ok (.directory path) ↔
      path = directory.join ⟨entry⟩ ∧ fs.isDirectory (directory.join ⟨entry⟩) = true ∧
        ∀ document, ¬ IsDocumentOf fs format directory entry document := by
  simp only [← find?_isFile_eq_some_iff]
  unfold resolve
  dsimp only
  cases [directory.join ⟨entry⟩, directory.join ⟨format.documentName entry⟩].find? fs.isFile <;>
    cases fs.isDirectory (directory.join ⟨entry⟩) <;> simp [eq_comm (a := path)]

/-! ## Entries -/

section
variable {seen : List String}
  {descend : Path → List String → Placement → Except LoadError Branch}

/-- The branches of a directory are those of its entries, no two of which have one address. -/
theorem entryBranches_eq_ok_iff :
    entryBranches reader fs format directory place descend seen entries = .ok branches ↔
      (∀ entry ∈ entries, format.slug entry ∉ seen) ∧ (entries.map format.slug).Nodup ∧
        List.Forall₂ (fun entry branch =>
          entryBranch reader fs format directory place descend entry = .ok branch)
          entries branches := by
  induction entries generalizing seen branches with
  | nil => simp [entryBranches, eq_comm]
  | cons entry entries ih =>
    rw [entryBranches, List.map_cons, List.nodup_cons, List.forall_mem_cons,
      List.forall₂_cons_left_iff]
    by_cases hseen : format.slug entry ∈ seen
    · simp [hseen]
    rw [if_neg (by simpa using hseen)]
    cases hentry : entryBranch reader fs format directory place descend entry with
    | error e => simp [Except.bind]
    | ok first =>
      constructor
      · intro h
        dsimp only [Except.bind] at h
        cases hothers : entryBranches reader fs format directory place descend
          (format.slug entry :: seen) entries with
        | error e => rw [hothers] at h; cases h
        | ok others =>
          rw [hothers] at h
          cases h
          obtain ⟨hnew, hnodup, hbranches⟩ := ih.1 hothers
          refine ⟨⟨hseen, fun other hother => ?_⟩, ⟨fun hm => ?_, hnodup⟩,
            first, others, rfl, hbranches, rfl⟩
          · exact fun hm => hnew other hother (List.mem_cons_of_mem _ hm)
          · obtain ⟨other, hother, heq⟩ := List.mem_map.1 hm
            exact hnew other hother (by rw [heq]; exact List.mem_cons_self)
      · rintro ⟨⟨-, hnew⟩, ⟨hnot, hnodup⟩, first', others, hfirst, hothers, rfl⟩
        cases hfirst
        have hrest : entryBranches reader fs format directory place descend
            (format.slug entry :: seen) entries = .ok others :=
          ih.2 ⟨fun other hother hm => ?_, hnodup, hothers⟩
        · dsimp only [Except.bind]
          rw [hrest]; rfl
        · rcases List.mem_cons.1 hm with heq | hm
          · exact hnot (List.mem_map.2 ⟨other, hother, heq⟩)
          · exact hnew other hother hm

/-- The branches depend on how the directories among the entries are loaded. -/
theorem entryBranches_congr
    {descend' : Path → List String → Placement → Except LoadError Branch}
    (h : ∀ entry ∈ entries, entryBranch reader fs format directory place descend entry =
      entryBranch reader fs format directory place descend' entry) :
    entryBranches reader fs format directory place descend seen entries =
      entryBranches reader fs format directory place descend' seen entries := by
  induction entries generalizing seen with
  | nil => rfl
  | cons entry entries ih =>
    rw [entryBranches, entryBranches, h entry List.mem_cons_self,
      ih fun other hother => h other (List.mem_cons_of_mem _ hother)]

end

/-! ## Directories -/

theorem directoryBranch_eq_ok_iff {fuel : Nat} :
    directoryBranch reader fs format (fuel + 1) directory entries place = .ok branch ↔
      ∃ page branches, directoryPage reader fs format directory entries place = .ok page ∧
        entryBranches reader fs format directory place (directoryBranch reader fs format fuel) []
          (others entries) = .ok branches ∧ branch = .mk page branches := by
  rw [directoryBranch]
  cases directoryPage reader fs format directory entries place with
  | error => simp [Except.bind]
  | ok page =>
    dsimp only [Except.bind]
    cases entryBranches reader fs format directory place (directoryBranch reader fs format fuel) []
        (others entries) with
    | error => simp [Except.map]
    | ok branches => simp [Except.map, eq_comm]

end CourseSite.ContentTree
