/-
  Why the loader comes to an end.

  * `Enters`: an entry of a directory names another directory, one level deeper in the file
    system; no location is deeper than `FileSystem.height`, hence `wellFounded_enters`.
  * `loadDirectory_eq_of_height_lt`: the loader has as many levels as it can need, and more of
    them change nothing.
-/
import CourseSite.Proofs.Content.Loading
import CourseSite.Proofs.Content.Reading
import CourseSite.Proofs.Files.Paths

namespace CourseSite

/-! ## Heights -/

namespace FileSystem
variable {fs : FileSystem} {location : Location}

theorem le_foldl_max {α : Type} (f : α → Nat) : ∀ (l : List α) (n : Nat),
    n ≤ l.foldl (fun n a => max n (f a)) n ∧ ∀ a ∈ l, f a ≤ l.foldl (fun n a => max n (f a)) n
  | [], n => ⟨Nat.le_refl n, nofun⟩
  | a :: l, n => by
    obtain ⟨hstart, hmem⟩ := le_foldl_max f l (max n (f a))
    refine ⟨by rw [List.foldl_cons]; omega, List.forall_mem_cons.2 ⟨?_, hmem⟩⟩
    rw [List.foldl_cons]; omega

/-- Nothing stands at a location that is deeper than the height. -/
theorem length_le_height {entry : Entry} (h : fs.entry? location = some entry) :
    location.length ≤ fs.height := by
  unfold entry? at h
  split at h
  · rename_i hroot; rw [hroot]; exact Nat.zero_le _
  · obtain ⟨⟨other, found⟩, hfind, -⟩ := Option.map_eq_some_iff.1 h
    have hother : other = location := by simpa using List.find?_some hfind
    rw [← hother]
    exact (le_foldl_max (fun placed : Location × Entry => placed.1.length) fs.entries 0).2 _
      (List.mem_of_find?_eq_some hfind)

/-- A directory stands where its path leads. -/
theorem entry?_of_isDirectory {path : Path} (h : fs.isDirectory path = true) :
    fs.entry? (fs.target path) = some .directory := by
  obtain ⟨location, hlocate⟩ := isDirectory_eq_true_iff.1 h
  obtain ⟨-, hwalk, hentry⟩ := locate_eq_ok_iff.1 hlocate
  rw [target, ← eq_foldl_of_walk hwalk]; exact hentry

end FileSystem

namespace Manifest.IsEntryName
variable {entry : String}

/-- A name stays one that stands for itself when it is cut at its end. -/
theorem isComponent_of_front {front behind : List Char}
    (h : IsEntryName entry) (hentry : entry.toList = front ++ behind) (hne : front ≠ []) :
    Path.IsComponent (String.ofList front) := by
  have hdot (cs : List Char) : String.ofList front ≠ String.ofList ('.' :: cs) := fun heq => by
    rw [← String.toList_inj, String.toList_ofList, String.toList_ofList] at heq
    exact (h.shown '.' (by rw [hentry, heq]; rfl)).1 rfl
  refine ⟨fun heq => hne ?_, hdot [], hdot ['.'], fun c hc => h.plain c ?_⟩
  · rw [← String.toList_inj, String.toList_ofList] at heq; exact heq
  · rw [String.toList_ofList] at hc
    rw [hentry]; exact List.mem_append_left _ hc

theorem isComponent (h : IsEntryName entry) : Path.IsComponent entry := by
  have hne : entry.toList ≠ [] := fun hnil => h.not_blank (by
    rw [String.toList_eq_nil_iff.1 hnil]; decide)
  have hfront := h.isComponent_of_front (List.append_nil entry.toList).symm hne
  rwa [String.ofList_toList] at hfront

end Manifest.IsEntryName

namespace ContentTree
variable {reader : Yaml.Reader} {fs : FileSystem} {format : ContentFormat} {directory below : Path}
  {entry : String} {entries : List String} {place : Placement}

/-! ## One level down -/

/-- An entry of the manifest of a directory names a directory in it. -/
def Enters (reader : Yaml.Reader) (fs : FileSystem) (format : ContentFormat)
    (directory below : Path) : Prop :=
  ∃ entries entry, Lists reader fs format directory entries ∧ entry ∈ entries ∧
    Manifest.IsEntryName entry ∧ entry ≠ ContentFormat.defaultEntry ∧
    below = directory.join ⟨entry⟩ ∧ fs.isDirectory below = true

theorem target_entry (h : Manifest.IsEntryName entry) :
    fs.target (directory.join ⟨entry⟩) = fs.target directory ++ [entry] := by
  have hcomponent := h.isComponent
  rw [FileSystem.target_join fs hcomponent.isAbsolute_eq, hcomponent.names_eq]
  exact FileSystem.goTo_of_isComponent hcomponent _

theorem length_target_of_enters (h : Enters reader fs format directory below) :
    (fs.target below).length = (fs.target directory).length + 1 ∧
      (fs.target below).length ≤ fs.height := by
  obtain ⟨entries, entry, -, -, hname, -, rfl, hdir⟩ := h
  refine ⟨?_, FileSystem.length_le_height (FileSystem.entry?_of_isDirectory hdir)⟩
  rw [target_entry hname, List.length_append, List.length_singleton]

/-- **Descent.** No chain of directories that are entered one from the other is endless. -/
theorem wellFounded_enters (reader : Yaml.Reader) (fs : FileSystem) (format : ContentFormat) :
    WellFounded fun below directory => Enters reader fs format directory below := by
  refine Subrelation.wf (r := InvImage (· < ·) fun path => fs.height + 1 - (fs.target path).length)
    (fun {below directory} h => ?_) (InvImage.wf _ Nat.lt_wfRel.wf)
  obtain ⟨hlength, hle⟩ := length_target_of_enters h
  show fs.height + 1 - (fs.target below).length < fs.height + 1 - (fs.target directory).length
  omega

/-! ## Enough levels -/

theorem enters_of_resolve {path : Path}
    (hentries : readManifest reader fs format directory = .ok entries)
    (h : entry ∈ others entries)
    (hpath : resolve fs format directory entry = .ok (.directory path)) :
    Enters reader fs format directory path := by
  obtain ⟨hlist, hnames, -⟩ := readManifest_eq_ok_iff.1 hentries
  obtain ⟨hmem, hdefault⟩ := mem_others_iff.1 h
  obtain ⟨rfl, hdir, -⟩ := resolve_eq_directory_iff.1 hpath
  exact ⟨entries, entry, hlist, hmem, hnames entry hmem, hdefault, rfl, hdir⟩

theorem directoryBranch_eq_of_height_lt {fuel fuel' : Nat}
    (hentries : readManifest reader fs format directory = .ok entries)
    (h : fs.height < (fs.target directory).length + fuel) (hpos : 0 < fuel)
    (h' : fs.height < (fs.target directory).length + fuel') (hpos' : 0 < fuel') :
    directoryBranch reader fs format fuel directory entries place =
      directoryBranch reader fs format fuel' directory entries place := by
  induction fuel generalizing fuel' directory entries place with
  | zero => cases hpos
  | succ fuel ih =>
    cases fuel' with
    | zero => cases hpos'
    | succ fuel' =>
      rw [directoryBranch, directoryBranch]
      refine congrArg (Except.bind _) (funext fun page => ?_)
      refine congrArg (Except.map _) (entryBranches_congr fun entry hentry => ?_)
      unfold entryBranch
      cases hpath : resolve fs format directory entry with
      | error => rfl
      | ok target =>
        cases target with
        | document => rfl
        | directory path =>
          dsimp only [Except.bind]
          cases hbelow : readManifest reader fs format path with
          | error => rfl
          | ok below =>
            obtain ⟨hlength, hle⟩ := length_target_of_enters (enters_of_resolve hentries hentry hpath)
            exact ih hbelow (by omega) (by omega) (by omega) (by omega)

/-- **Levels.** A directory is loaded in one way with any two numbers of levels that reach
    below the deepest location. -/
theorem loadDirectory_eq_of_height_lt {fuel fuel' : Nat}
    (hentries : readManifest reader fs format directory = .ok entries)
    (h : fs.height < (fs.target directory).length + fuel) (hpos : 0 < fuel)
    (h' : fs.height < (fs.target directory).length + fuel') (hpos' : 0 < fuel')
    (nodes : List Node) (parent : Option Nat) (position : Nat) :
    loadDirectory reader fs format fuel nodes directory entries place parent position =
      loadDirectory reader fs format fuel' nodes directory entries place parent position := by
  rw [loadDirectory_fills, loadDirectory_fills,
    directoryBranch_eq_of_height_lt hentries h hpos h' hpos']

end ContentTree

end CourseSite
