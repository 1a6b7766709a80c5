/-
  When a path leads somewhere, and which part of a file system that depends on.

  * `FileSystem.Exists`: every name of a path is looked up in a directory, and something stands
    where the path leads.
  * `follow_eq_ok_iff`: following a path leads to its target, if it exists.
  * `FileSystem.AgreesBelow`: two file systems have the same directories and names, and the same
    files below some location.  The same paths exist in both (`AgreesBelow.exists_iff`), and what
    lies below the location is read alike (`AgreesBelow.readText_eq`).
-/
import CourseSite.Proofs.Attempt
import CourseSite.Proofs.Files.Writing

namespace CourseSite.FileSystem

/-! ## Existence -/

/-- Every name of the path is looked up in a directory, and something stands where it leads. -/
structure Exists (fs : FileSystem) (path : Path) : Prop where
  plain : '\x00' ∉ path.text.toList
  ne_empty : path.text ≠ ""
  through : ∀ front name back, path.names = front ++ name :: back →
    fs.entry? (front.foldl goTo (fs.start path)) = some .directory
  short : ∀ name ∈ path.names, name.utf8ByteSize ≤ longestName
  found : fs.entry? (fs.target path) ≠ none

variable {fs other : FileSystem} {path : Path} {base location : Location}

/-- A walk arrives if it looks up every name, none too long, in a directory. -/
theorem walk_eq_ok_iff {names : List String} {destination : Location} :
    fs.walk location names = .ok destination ↔
      (∀ front name back, names = front ++ name :: back →
        fs.entry? (front.foldl goTo location) = some .directory) ∧
      (∀ name ∈ names, name.utf8ByteSize ≤ longestName) ∧ destination = names.foldl goTo location := by
  induction names generalizing location with
  | nil => simp [walk, eq_comm]
  | cons first names ih =>
    have hfirst : (first ≠ "" ∧ first ≠ "." ∧ first ≠ ".." → first.utf8ByteSize ≤ longestName) ↔
        first.utf8ByteSize ≤ longestName := by
      refine ⟨fun h => Classical.byContradiction fun hlong => hlong (h ⟨?_, ?_, ?_⟩), fun h _ => h⟩
      all_goals rintro rfl; exact hlong (by decide)
    rw [walk_cons_eq_ok_iff, ih, hfirst, List.forall_mem_cons, List.foldl_cons]
    constructor
    · rintro ⟨hentry, hshort, hthrough, hshorts, hdestination⟩
      refine ⟨fun front name back hnames => ?_, ⟨hshort, hshorts⟩, hdestination⟩
      cases front with
      | nil => exact hentry
      | cons other front =>
        obtain ⟨hsame, hback⟩ := List.cons.inj hnames
        subst hsame
        exact hthrough front name back hback
    · rintro ⟨hthrough, ⟨hshort, hshorts⟩, hdestination⟩
      refine ⟨hthrough [] first names rfl, hshort, fun front name back hnames => ?_, hshorts,
        hdestination⟩
      exact hthrough (first :: front) name back (by rw [hnames]; rfl)

/-- **Following a path** leads to its target, if it exists. -/
theorem follow_eq_ok_iff {entry : Entry} :
    fs.follow path = .ok (location, entry) ↔
      fs.Exists path ∧ location = fs.target path ∧ fs.entry? location = some entry := by
  rw [follow]
  split
  · rename_i hnul
    simp only [reduceCtorEq, false_iff]
    exact fun h => h.1.plain (by simpa using hnul)
  rename_i hplain
  split
  · rename_i hempty
    simp only [reduceCtorEq, false_iff]
    exact fun h => h.1.ne_empty hempty
  rename_i hne
  constructor
  · intro h
    split at h
    · cases h
    rename_i destination hwalk
    obtain ⟨hthrough, hshort, rfl⟩ := walk_eq_ok_iff.1 hwalk
    split at h
    · cases h
    rename_i found hfound
    cases h
    refine ⟨⟨by simpa using hplain, hne, hthrough, hshort, ?_⟩, rfl, hfound⟩
    rw [target, hfound]; exact Option.some_ne_none _
  · rintro ⟨hexists, rfl, hentry⟩
    rw [walk_eq_ok_iff.2 ⟨hexists.through, hexists.short, rfl⟩]
    rw [target] at hentry
    simp only [hentry, target]

theorem exists_iff_follow_isOk : fs.Exists path ↔ (fs.follow path).isOk = true := by
  constructor
  · intro h
    obtain ⟨entry, hentry⟩ := Option.ne_none_iff_exists'.1 h.found
    rw [follow_eq_ok_iff.2 ⟨h, rfl, hentry⟩]; rfl
  · intro h
    obtain ⟨found, hfollow⟩ := Attempt.exists_eq_ok h
    exact (follow_eq_ok_iff.1 hfollow).1

instance : Decidable (fs.Exists path) := decidable_of_iff _ exists_iff_follow_isOk.symm

/-! ## Agreement -/

/-- The file systems have the same directories and names, and the same files below a location. -/
structure AgreesBelow (base : Location) (fs other : FileSystem) : Prop where
  current : other.current = fs.current
  directory : ∀ location,
    other.entry? location = some .directory ↔ fs.entry? location = some .directory
  absent : ∀ location, other.entry? location = none ↔ fs.entry? location = none
  below : ∀ location, base <+: location → other.entry? location = fs.entry? location

namespace AgreesBelow

/-- Another file anywhere else leaves all below the location as it is. -/
theorem of_put {data data' : ByteArray} (hentry : fs.entry? location = some (.file data))
    (houtside : ¬ base <+: location) : AgreesBelow base fs (fs.put location (.file data')) := by
  have hne : location ≠ [] := by rintro rfl; cases hentry
  have hput := fs.entry?_put hne (.file data')
  refine ⟨rfl, fun other => ?_, fun other => ?_, fun other hother => ?_⟩
  · rw [hput]
    split
    · rename_i h; subst h; simp [hentry]
    · rfl
  · rw [hput]
    split
    · rename_i h; subst h; simp [hentry]
    · rfl
  · rw [hput, if_neg (by rintro rfl; exact houtside hother)]

theorem symm (h : AgreesBelow base fs other) : AgreesBelow base other fs :=
  ⟨h.current.symm, fun location => (h.directory location).symm,
    fun location => (h.absent location).symm, fun location hbelow => (h.below location hbelow).symm⟩

section
variable (h : AgreesBelow base fs other)
include h

theorem start_eq (path : Path) : other.start path = fs.start path := by simp only [start, h.current]

theorem target_eq (path : Path) : other.target path = fs.target path := by
  rw [target, h.start_eq]; rfl

theorem walk_eq (names : List String) (location : Location) :
    other.walk location names = fs.walk location names := by
  induction names generalizing location with
  | nil => rfl
  | cons name names ih =>
    have hdirectory := h.directory location
    have habsent := h.absent location
    rw [walk, walk]
    cases hentry : fs.entry? location with
    | none => rw [habsent.2 hentry]
    | some entry =>
      cases entry with
      | directory => simp only [hdirectory.2 hentry, ih]
      | file data =>
        -- The other file may hold anything, but it is a file.
        rw [hentry] at hdirectory habsent
        obtain ⟨entry, hother⟩ := Option.ne_none_iff_exists'.1 (mt habsent.1 (Option.some_ne_none _))
        cases entry with
        | file data' => simp only [hother]
        | directory => cases hdirectory.1 hother

theorem exists_of_exists {path : Path} (hexists : fs.Exists path) : other.Exists path := by
  refine ⟨hexists.plain, hexists.ne_empty, fun front name back hnames => ?_, hexists.short, ?_⟩
  · rw [h.directory, h.start_eq]; exact hexists.through front name back hnames
  · rw [ne_eq, h.absent, h.target_eq]; exact hexists.found

/-- The same paths exist. -/
theorem exists_iff (path : Path) : other.Exists path ↔ fs.Exists path :=
  ⟨h.symm.exists_of_exists, h.exists_of_exists⟩

theorem follow_eq {path : Path} (hbelow : base <+: fs.target path) :
    other.follow path = fs.follow path := by
  rw [follow, follow, h.start_eq, h.walk_eq]
  split
  · rfl
  split
  · rfl
  cases hwalk : fs.walk (fs.start path) path.names with
  | error e => rfl
  | ok location =>
    rw [target, ← eq_foldl_of_walk hwalk] at hbelow
    simp only [h.below _ hbelow]

/-- What lies below the location is read alike. -/
theorem readText_eq {path : Path} (hbelow : base <+: fs.target path) :
    other.readText path = fs.readText path := by
  simp only [readText, read, locate, h.follow_eq hbelow]

end

end AgreesBelow

end CourseSite.FileSystem
