/-
  Which directories hold a course.

  * `IsContentDirectory`: what has to hold of one directory and its manifest.
  * `IsCourse`: it holds of the root, whose manifest is not empty, and of all directories that
    are reached from it through listed entries.
  * `load_isOk_iff`: loading comes to an end, and it succeeds just for courses.
-/
import Mathlib.Data.List.Nodup
import Mathlib.Logic.Relation
import CourseSite.Proofs.Attempt
import CourseSite.Proofs.Content.Descent
import CourseSite.Yaml.Read

namespace CourseSite.ContentTree

variable {reader : Yaml.Reader} {fs : FileSystem} {format : ContentFormat} {directory root : Path}
  {entry : String} {entries : List String} {place : Placement}

/-- The document of the page of a directory itself. -/
def ownDocument (format : ContentFormat) (directory : Path) : Path :=
  directory.join ⟨format.documentName ContentFormat.defaultEntry⟩

/-- The directory can be loaded as far as it does not depend on the directories below it. -/
structure IsContentDirectory (reader : Yaml.Reader) (fs : FileSystem) (format : ContentFormat)
    (directory : Path) (entries : List String) : Prop where
  listed : Lists reader fs format directory entries
  names : ∀ entry ∈ entries, Manifest.IsEntryName entry
  nodup : entries.Nodup
  /-- No two entries have one address. -/
  slugs : ∀ entry ∈ entries, ∀ other ∈ entries, entry ≠ ContentFormat.defaultEntry →
    other ≠ ContentFormat.defaultEntry → format.slug entry = format.slug other → entry = other
  own : ContentFormat.defaultEntry ∈ entries → fs.isFile (ownDocument format directory) = true
  /-- An entry names a document or a directory, but not both. -/
  named : ∀ entry ∈ entries, entry ≠ ContentFormat.defaultEntry →
    ((∃ path, IsDocumentOf fs format directory entry path) ∨
      fs.isDirectory (directory.join ⟨entry⟩) = true) ∧
    ¬ ((∃ path, IsDocumentOf fs format directory entry path) ∧
      fs.isDirectory (directory.join ⟨entry⟩) = true)
  ownReadable : ContentFormat.defaultEntry ∈ entries →
    IsDocument reader fs (ownDocument format directory)
  readable : ∀ entry ∈ entries, entry ≠ ContentFormat.defaultEntry →
    ∀ path, IsDocumentOf fs format directory entry path → IsDocument reader fs path

/-- The directory is reached from another one through listed entries. -/
def Reaches (reader : Yaml.Reader) (fs : FileSystem) (format : ContentFormat) :
    Path → Path → Prop :=
  Relation.ReflTransGen (Enters reader fs format)

/-- The root is a directory whose manifest lists something, and all directories that are reached
    from it can be loaded. -/
structure IsCourse (reader : Yaml.Reader) (fs : FileSystem) (format : ContentFormat) (root : Path) :
    Prop where
  directory : fs.isDirectory root = true
  listed : ∃ entry entries, Lists reader fs format root (entry :: entries)
  reached : ∀ directory, Reaches reader fs format root directory →
    ∃ entries, IsContentDirectory reader fs format directory entries

/-! ## One directory -/

theorem documentPage_isOk_iff {path : Path} {isDefault : Bool} :
    (∃ page, documentPage reader fs path place isDefault = .ok page) ↔
      IsDocument reader fs path := by
  rw [← readDocument_isOk_iff, documentPage]
  cases readDocument reader fs path <;> simp [Except.map]

theorem directoryPage_isOk_iff :
    (∃ page, directoryPage reader fs format directory entries place = .ok page) ↔
      (ContentFormat.defaultEntry ∈ entries →
        fs.isFile (ownDocument format directory) = true ∧
          IsDocument reader fs (ownDocument format directory)) := by
  unfold directoryPage ownDocument
  by_cases hdefault : ContentFormat.defaultEntry ∈ entries
  · simp only [List.contains_eq_mem, hdefault, decide_true, if_true, forall_const]
    cases fs.isFile (directory.join ⟨format.documentName ContentFormat.defaultEntry⟩) with
    | false => simp
    | true => simpa using documentPage_isOk_iff
  · simp [hdefault]

theorem entryBranch_isOk_iff
    {descend : Path → List String → Placement → Except LoadError Branch} :
    (∃ branch, entryBranch reader fs format directory place descend entry = .ok branch) ↔
      (∃ path, resolve fs format directory entry = .ok (.document path) ∧
        IsDocument reader fs path) ∨
      ∃ path, resolve fs format directory entry = .ok (.directory path) ∧
        ∃ below branch, readManifest reader fs format path = .ok below ∧
          descend path below (entryPlacement format place entry) =
            .ok branch := by
  unfold entryBranch
  cases resolve fs format directory entry with
  | error => simp [Except.bind]
  | ok target =>
    cases target with
    | document path =>
      simp only [Except.bind, Except.ok.injEq, Target.document.injEq, exists_eq_left', reduceCtorEq,
        false_and, exists_false, or_false]
      rw [← documentPage_isOk_iff]
      cases documentPage reader fs path (entryPlacement format place entry) false <;>
        simp [Except.map]
    | directory path =>
      simp only [Except.bind, Except.ok.injEq, Target.directory.injEq, exists_eq_left', reduceCtorEq,
        false_and, exists_false, false_or]
      cases readManifest reader fs format path <;> simp

theorem exists_forall₂_iff {α β : Type} {R : α → β → Prop} {l : List α} :
    (∃ l', List.Forall₂ R l l') ↔ ∀ a ∈ l, ∃ b, R a b := by
  induction l with
  | nil => simp
  | cons a l ih =>
    rw [List.forall_mem_cons, ← ih]
    constructor
    · rintro ⟨_, h⟩
      cases h with
      | cons h hl => exact ⟨⟨_, h⟩, _, hl⟩
    · rintro ⟨⟨b, h⟩, l', hl⟩
      exact ⟨b :: l', .cons h hl⟩

theorem entryBranches_isOk_iff
    {descend : Path → List String → Placement → Except LoadError Branch} :
    (∃ branches, entryBranches reader fs format directory place descend [] entries = .ok branches) ↔
      (entries.map format.slug).Nodup ∧
        ∀ entry ∈ entries, ∃ branch,
          entryBranch reader fs format directory place descend entry = .ok branch := by
  simp only [entryBranches_eq_ok_iff, List.not_mem_nil, not_false_eq_true, implies_true, true_and,
    exists_and_left, exists_forall₂_iff]

theorem nodup_slugs_iff (h : entries.Nodup) :
    ((others entries).map format.slug).Nodup ↔
      ∀ entry ∈ entries, ∀ other ∈ entries, entry ≠ ContentFormat.defaultEntry →
        other ≠ ContentFormat.defaultEntry → format.slug entry = format.slug other →
        entry = other := by
  rw [others, List.nodup_map_iff_inj_on (h.filter _), ← others]
  simp only [mem_others_iff]
  constructor
  · intro hinj entry he other ho hne hne' heq
    exact hinj entry ⟨he, hne⟩ other ⟨ho, hne'⟩ heq
  · intro hinj entry he other ho heq
    exact hinj entry he.1 other ho.1 he.2 ho.2 heq

/-- **One directory.** A directory is loaded if it can be on its own, and so can the ones that
    its entries name. -/
theorem directoryBranch_isOk_iff {fuel : Nat}
    (hentries : readManifest reader fs format directory = .ok entries) :
    (∃ branch, directoryBranch reader fs format (fuel + 1) directory entries place = .ok branch) ↔
      IsContentDirectory reader fs format directory entries ∧
        ∀ entry ∈ others entries, fs.isDirectory (directory.join ⟨entry⟩) = true →
          ∃ below branch, readManifest reader fs format (directory.join ⟨entry⟩) = .ok below ∧
            directoryBranch reader fs format fuel (directory.join ⟨entry⟩) below
              (entryPlacement format place entry) = .ok branch := by
  obtain ⟨hlist, hnames, hnodup⟩ := readManifest_eq_ok_iff.1 hentries
  have hsplit :
      (∃ branch,
        directoryBranch reader fs format (fuel + 1) directory entries place = .ok branch) ↔
      (∃ page, directoryPage reader fs format directory entries place = .ok page) ∧
        ∃ branches, entryBranches reader fs format directory place
          (directoryBranch reader fs format fuel) [] (others entries) = .ok branches := by
    simp only [directoryBranch_eq_ok_iff]
    constructor
    · rintro ⟨_, page, branches, hpage, hbranches, rfl⟩; exact ⟨⟨page, hpage⟩, branches, hbranches⟩
    · rintro ⟨⟨page, hpage⟩, branches, hbranches⟩; exact ⟨_, page, branches, hpage, hbranches, rfl⟩
  rw [hsplit, directoryPage_isOk_iff, entryBranches_isOk_iff, nodup_slugs_iff hnodup]
  simp only [entryBranch_isOk_iff]
  constructor
  · rintro ⟨hown, hslugs, hall⟩
    refine ⟨⟨hlist, hnames, hnodup, hslugs, fun hd => (hown hd).1, fun entry he hne => ?_,
      fun hd => (hown hd).2, fun entry he hne path hpath => ?_⟩, fun entry he hdir => ?_⟩
    · rcases hall entry (mem_others_iff.2 ⟨he, hne⟩) with ⟨path, hpath, -⟩ | ⟨path, hpath, -⟩
      · obtain ⟨hdoc, hnot⟩ := resolve_eq_document_iff.1 hpath
        exact ⟨.inl ⟨path, hdoc⟩, fun h => by rw [hnot] at h; cases h.2⟩
      · obtain ⟨-, hdir, hnone⟩ := resolve_eq_directory_iff.1 hpath
        exact ⟨.inr hdir, fun ⟨⟨document, hdoc⟩, _⟩ => hnone document hdoc⟩
    · rcases hall entry (mem_others_iff.2 ⟨he, hne⟩) with ⟨path', hpath', hdoc⟩ | ⟨_, hdir, -⟩
      · rwa [hpath.unique (resolve_eq_document_iff.1 hpath').1]
      · exact absurd hpath ((resolve_eq_directory_iff.1 hdir).2.2 path)
    · rcases hall entry he with ⟨path, hpath, -⟩ | ⟨path, hpath, hloads⟩
      · rw [(resolve_eq_document_iff.1 hpath).2] at hdir; cases hdir
      · rwa [(resolve_eq_directory_iff.1 hpath).1] at hloads
  · rintro ⟨here, hbelow⟩
    refine ⟨fun hd => ⟨here.own hd, here.ownReadable hd⟩, here.slugs, fun entry hentry => ?_⟩
    obtain ⟨he, hne⟩ := mem_others_iff.1 hentry
    obtain ⟨hone, hnot⟩ := here.named entry he hne
    cases hdir : fs.isDirectory (directory.join ⟨entry⟩) with
    | false =>
      obtain ⟨path, hpath⟩ := hone.resolve_right (by rw [hdir]; nofun)
      exact .inl ⟨path, resolve_eq_document_iff.2 ⟨hpath, hdir⟩, here.readable entry he hne path hpath⟩
    | true =>
      have hnone (document : Path) : ¬ IsDocumentOf fs format directory entry document :=
        fun hdoc => hnot ⟨⟨document, hdoc⟩, hdir⟩
      exact .inr ⟨_, resolve_eq_directory_iff.2 ⟨rfl, hdir, hnone⟩, hbelow entry hentry hdir⟩

/-! ## All directories -/

/-- What is loaded is a course all the way down. -/
theorem isContentDirectory_of_directoryBranch {fuel : Nat} {branch : Branch}
    (hentries : readManifest reader fs format directory = .ok entries)
    (h : directoryBranch reader fs format fuel directory entries place = .ok branch)
    {reached : Path} (hreached : Reaches reader fs format directory reached) :
    ∃ found, IsContentDirectory reader fs format reached found := by
  induction fuel generalizing directory entries place branch with
  | zero => cases h
  | succ fuel ih =>
    obtain ⟨here, hbelow⟩ := (directoryBranch_isOk_iff hentries).1 ⟨branch, h⟩
    rcases hreached.cases_head with rfl | ⟨next, hnext, hrest⟩
    · exact ⟨entries, here⟩
    · obtain ⟨listed, entry, hlist, he, -, hne, rfl, hdir⟩ := hnext
      rw [hlist.unique here.listed] at he
      obtain ⟨below, branch', hmanifest, hload⟩ := hbelow entry (mem_others_iff.2 ⟨he, hne⟩) hdir
      exact ih hmanifest hload hrest

/-- A course is loaded all the way down, with as many levels as there are. -/
theorem exists_directoryBranch {fuel : Nat}
    (hentries : readManifest reader fs format directory = .ok entries)
    (hdirectory : fs.isDirectory directory = true)
    (hfuel : fs.height < (fs.target directory).length + fuel)
    (h : ∀ reached, Reaches reader fs format directory reached →
      ∃ found, IsContentDirectory reader fs format reached found) :
    ∃ branch, directoryBranch reader fs format fuel directory entries place = .ok branch := by
  induction fuel generalizing directory entries place with
  | zero =>
    have := FileSystem.length_le_height (FileSystem.entry?_of_isDirectory hdirectory)
    omega
  | succ fuel ih =>
    obtain ⟨found, here⟩ := h directory .refl
    have hfound : found = entries := here.listed.unique (readManifest_eq_ok_iff.1 hentries).1
    subst hfound
    refine (directoryBranch_isOk_iff hentries).2 ⟨here, fun entry hentry hdir => ?_⟩
    obtain ⟨he, hne⟩ := mem_others_iff.1 hentry
    have henters : Enters reader fs format directory (directory.join ⟨entry⟩) :=
      ⟨_, entry, here.listed, he, here.names entry he, hne, rfl, hdir⟩
    obtain ⟨below, hbelow⟩ := h _ (.single henters)
    have hmanifest := readManifest_eq_ok_iff.2 ⟨hbelow.listed, hbelow.names, hbelow.nodup⟩
    refine ⟨below, ?_⟩
    have hlength := (length_target_of_enters henters).1
    obtain ⟨branch, hbranch⟩ := ih hmanifest hdir (by omega)
      fun reached hreached => h reached (.head henters hreached)
    exact ⟨branch, hmanifest, hbranch⟩

/-- **Loading comes to an end, and it succeeds just for courses.**  No chain of directories that
    are entered is endless; the number of levels that the loader has cuts nothing off; and a tree
    is loaded if and only if the root holds a course. -/
theorem load_isOk_iff (reader : Yaml.Reader) (fs : FileSystem) (format : ContentFormat)
    (root : Path) :
    (WellFounded fun below directory => Enters reader fs format directory below) ∧
    (∀ entries levels place, readManifest reader fs format root = .ok entries → fs.height < levels →
      ∀ nodes parent position,
        loadDirectory reader fs format levels nodes root entries place parent position =
          loadDirectory reader fs format (fs.height + 1) nodes root entries place parent position) ∧
    ((∃ tree, load reader fs format root = .ok tree) ↔ IsCourse reader fs format root) := by
  refine ⟨wellFounded_enters reader fs format, fun entries levels place hentries hlevels nodes
    parent position => ?_, ?_⟩
  · exact loadDirectory_eq_of_height_lt hentries (by omega) (by omega) (by omega) (by omega) nodes
      parent position
  · simp only [load_eq_ok_iff]
    constructor
    · rintro ⟨tree, hdir, entries, branch, hentries, hne, hload, -⟩
      obtain ⟨hlist, -⟩ := readManifest_eq_ok_iff.1 hentries
      obtain ⟨entry, others, rfl⟩ := List.exists_cons_of_ne_nil hne
      exact ⟨hdir, ⟨entry, others, hlist⟩, fun reached hreached =>
        isContentDirectory_of_directoryBranch hentries hload hreached⟩
    · rintro ⟨hdir, ⟨entry, others, hlist⟩, hreached⟩
      obtain ⟨found, here⟩ := hreached root .refl
      obtain rfl := hlist.unique here.listed
      have hentries := readManifest_eq_ok_iff.2 ⟨here.listed, here.names, here.nodup⟩
      obtain ⟨branch, hload⟩ : ∃ branch, directoryBranch reader fs format (fs.height + 1) root
          (entry :: others) (rootPlacement root) = .ok branch :=
        exists_directoryBranch hentries hdir (by omega) hreached
      exact ⟨_, hdir, _, branch, hentries, by simp, hload, rfl⟩

/-! ## A course and no course -/

namespace Anchored

/-- A course whose manifest has an anchor, and whose document has a title with a tag. -/
def files : FileSystem where
  entries :=
    [(["course"], .directory),
      (["course", "manifest.yaml"], .file "- &first default\n".toUTF8),
      (["course", "default.md"], .file "---\ntitle: !!str Hello\n---\nText".toUTF8)]
  current := []

end Anchored

open Anchored in
/-- The directory of the course is loaded, with any number of levels from 3 on, and the directory
    above it is no course. -/
theorem load_isOk_iff_anchored :
    IsCourse Yaml.reader files {} ⟨"/course"⟩ ∧ ¬ IsCourse Yaml.reader files {} ⟨"/"⟩ ∧
      ∀ levels place, 2 < levels →
        loadDirectory Yaml.reader files {} levels [] ⟨"/course"⟩ ["default"] place none 0 =
          loadDirectory Yaml.reader files {} 3 [] ⟨"/course"⟩ ["default"] place none 0 := by
  have hok : (load Yaml.reader files {} ⟨"/course"⟩).isOk = true := by decide +kernel
  have herror : (load Yaml.reader files {} ⟨"/"⟩).isOk = false := by decide +kernel
  have hentries : readManifest Yaml.reader files {} ⟨"/course"⟩ = .ok ["default"] := by
    decide +kernel
  obtain ⟨-, hlevels, hcourse⟩ := load_isOk_iff Yaml.reader files {} ⟨"/course"⟩
  refine ⟨hcourse.1 (Attempt.exists_eq_ok hok), fun habove => ?_, fun levels place hlt =>
    hlevels _ _ _ hentries hlt _ _ _⟩
  obtain ⟨tree, htree⟩ := (load_isOk_iff Yaml.reader files {} ⟨"/"⟩).2.2.2 habove
  rw [htree] at herror
  cases herror

end CourseSite.ContentTree
