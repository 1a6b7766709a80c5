/-
  What writing a file and making directories leave as they were.

  * `FileSystem.target`: the location that a path is about, whether or not anything
    stands there.
  * `locate_eq_ok_iff`, `read_eq_ok_iff`: when a path leads somewhere, and when a file can be
    read.
  * `FileSystem.ExtendedBy`: nothing but the files at some locations changed, and no
    directory is gone; what was read from elsewhere is read again (`ExtendedBy.read`).
  * `extendedBy_createDirectories`, `extendedBy_write`, `read_of_write`: making
    directories and writing a file extend a file system, and the file can be read.
-/
import CourseSite.Files.FileSystem

namespace CourseSite.FileSystem

/-! ## Locations -/

/-- The location that a name leads to from another one. -/
def goTo (location : Location) (name : String) : Location :=
  if name = "" ∨ name = "." then location
  else if name = ".." then location.dropLast
  else location ++ [name]

/-- The location that a path is about. -/
def target (fs : FileSystem) (path : Path) : Location := path.names.foldl goTo (fs.start path)

theorem find?_putEntry (location : Location) (entry : Entry) (other : Location) :
    ∀ entries, ((putEntry location entry entries).find? (·.1 == other)).map (·.2) =
      if other = location then some entry else (entries.find? (·.1 == other)).map (·.2)
  | [] => by
    by_cases h : other = location
    · subst h; simp [putEntry]
    · simp [putEntry, h, Ne.symm h]
  | (key, old) :: entries => by
    have ih := find?_putEntry location entry other entries
    rw [putEntry]
    by_cases hk : key = location
    · subst hk
      by_cases h : other = key
      · subst h; simp
      · simp [h, Ne.symm h]
    · rw [if_neg hk]
      by_cases ho : key = other
      · subst ho; simp [hk]
      · simp only [List.find?_cons, beq_eq_false_iff_ne.2 ho]; exact ih

theorem entry?_put (fs : FileSystem) {location : Location} (hl : location ≠ []) (entry : Entry)
    (other : Location) :
    entry? (fs.put location entry) other =
      if other = location then some entry else fs.entry? other := by
  unfold entry? put
  by_cases ho : other = []
  · subst ho; simp [Ne.symm hl]
  · simp only [ho, if_false]; exact find?_putEntry ..

/-! ## Walking -/

section
variable {fs later : FileSystem}

theorem walk_cons_eq_ok_iff {location destination : Location} {name : String} {names : List String} :
    fs.walk location (name :: names) = .ok destination ↔
      fs.entry? location = some .directory ∧
        (name ≠ "" ∧ name ≠ "." ∧ name ≠ ".." → name.utf8ByteSize ≤ longestName) ∧
        fs.walk (goTo location name) names = .ok destination := by
  rw [walk]
  rcases fs.entry? location with _ | (_ | _)
  · simp
  · simp
  · unfold goTo
    by_cases h₁ : name = "" ∨ name = "."
    · rcases h₁ with rfl | rfl <;> simp
    by_cases h₂ : name = ".."
    · subst h₂; simp
    · rw [not_or] at h₁
      by_cases h₃ : longestName < name.utf8ByteSize
      · have : ¬ name.utf8ByteSize ≤ longestName := by omega
        simp [h₁, h₂, h₃, this]
      · simp [h₁, h₂, h₃, Nat.le_of_not_lt h₃]

/-- A walk leads to the location that the names are about. -/
theorem eq_foldl_of_walk : ∀ {names : List String} {location destination : Location},
    fs.walk location names = .ok destination → destination = names.foldl goTo location
  | [], _, _, h => by rw [walk] at h; cases h; rfl
  | name :: names, _, _, h => by
    rw [List.foldl_cons]; exact eq_foldl_of_walk (walk_cons_eq_ok_iff.1 h).2.2

theorem walk_append_eq_ok_iff {names names' : List String} {destination : Location} :
    ∀ {location : Location}, fs.walk location (names ++ names') = .ok destination ↔
      ∃ middle, fs.walk location names = .ok middle ∧ fs.walk middle names' = .ok destination := by
  induction names with
  | nil => intro location; simp [walk]
  | cons name names ih =>
    intro location
    simp only [List.cons_append, walk_cons_eq_ok_iff, ih]
    constructor
    · rintro ⟨h₁, h₂, middle, h₃, h₄⟩; exact ⟨middle, ⟨h₁, h₂, h₃⟩, h₄⟩
    · rintro ⟨middle, ⟨h₁, h₂, h₃⟩, h₄⟩; exact ⟨h₁, h₂, middle, h₃, h₄⟩

/-- A walk needs only that the directories are there. -/
theorem walk_of_directories
    (keeps : ∀ location, fs.entry? location = some .directory →
      later.entry? location = some .directory) :
    ∀ {names : List String} {location destination : Location},
      fs.walk location names = .ok destination → later.walk location names = .ok destination
  | [], _, _, h => h
  | name :: names, _, _, h => by
    obtain ⟨h₁, h₂, h₃⟩ := walk_cons_eq_ok_iff.1 h
    exact walk_cons_eq_ok_iff.2 ⟨keeps _ h₁, h₂, walk_of_directories keeps h₃⟩

/-! ## Reading -/

theorem fault?_eq_none {path : Path} (h : fault? path = none) :
    path.text.toList.contains '\x00' = false ∧ path.text ≠ "" := by
  unfold fault? at h
  split at h
  · cases h
  split at h
  · cases h
  · rename_i h₁ h₂; exact ⟨by simpa using h₁, h₂⟩

/-- A path leads somewhere if the walk along it does, and something stands there. -/
theorem locate_eq_ok_iff {path : Path} {location : Location} {entry : Entry} :
    fs.locate path = .ok (location, entry) ↔ fault? path = none ∧
      fs.walk (fs.start path) path.names = .ok location ∧ fs.entry? location = some entry := by
  unfold locate
  cases hfault : fault? path with
  | some e => simp
  | none =>
    obtain ⟨hnul, hempty⟩ := fault?_eq_none hfault
    dsimp only
    rw [follow, hnul, if_neg Bool.false_ne_true, if_neg hempty]
    cases hw : fs.walk (fs.start path) path.names with
    | error e => simp
    | ok destination =>
      dsimp only
      constructor
      · intro h
        cases he : fs.entry? destination with
        | none => rw [he] at h; cases h
        | some found => rw [he] at h; cases h; exact ⟨rfl, rfl, he⟩
      · rintro ⟨-, hlocation, he⟩
        cases hlocation
        rw [he]

theorem isDirectory_eq_true_iff {path : Path} :
    fs.isDirectory path = true ↔ ∃ location, fs.locate path = .ok (location, .directory) := by
  unfold isDirectory
  split
  · rename_i location h; simp [h]
  · rename_i h
    simp only [Bool.false_eq_true, false_iff]
    rintro ⟨location, hl⟩
    exact h _ hl

/-- A file can be read if the walk along its path leads to it. -/
theorem read_eq_ok_iff {path : Path} {data : ByteArray} :
    fs.read path = .ok data ↔ fault? path = none ∧
      fs.walk (fs.start path) path.names = .ok (fs.target path) ∧
        fs.entry? (fs.target path) = some (.file data) := by
  rw [← locate_eq_ok_iff, read]
  constructor
  · intro h
    split at h
    · cases h
    · cases h
    · rename_i location data' hl
      cases h
      rw [target, ← eq_foldl_of_walk (locate_eq_ok_iff.1 hl).2.1]; exact hl
  · intro h
    rw [h]

/-! ## Extensions -/

/-- The later file system has other files at some locations only, and all directories of
    the earlier one. -/
structure ExtendedBy (fs : FileSystem) (outputs : Location → Prop) (later : FileSystem) : Prop where
  current : later.current = fs.current
  directory : ∀ {location}, fs.entry? location = some .directory →
    later.entry? location = some .directory
  file : ∀ {location data}, ¬ outputs location →
    ( later.entry? location = some (.file data) ↔ fs.entry? location = some (.file data))

variable {outputs outputs' : Location → Prop}

theorem ExtendedBy.refl (fs : FileSystem) (outputs : Location → Prop) : fs.ExtendedBy outputs fs :=
  ⟨rfl, id, fun _ => Iff.rfl⟩

theorem ExtendedBy.trans {last : FileSystem} (h : fs.ExtendedBy outputs later)
    (h' : later.ExtendedBy outputs last) : fs.ExtendedBy outputs last :=
  ⟨h'.current.trans h.current, fun hd => h'.directory (h.directory hd),
    fun ho => (h'.file ho).trans (h.file ho)⟩

theorem ExtendedBy.mono (h : fs.ExtendedBy outputs later)
    (sub : ∀ location, outputs location → outputs' location) : fs.ExtendedBy outputs' later :=
  ⟨h.current, h.directory, fun ho => h.file fun hl => ho (sub _ hl)⟩

theorem ExtendedBy.target_eq (h : fs.ExtendedBy outputs later) (path : Path) :
    later.target path = fs.target path := by
  simp only [target, start, h.current]

/-- What was read from elsewhere is read again. -/
theorem ExtendedBy.read (h : fs.ExtendedBy outputs later) {path : Path} {data : ByteArray}
    (ho : ¬ outputs (fs.target path)) (hr : fs.read path = .ok data) :
    later.read path = .ok data := by
  obtain ⟨hfault, hw, he⟩ := read_eq_ok_iff.1 hr
  have hstart : later.start path = fs.start path := by simp only [start, h.current]
  refine read_eq_ok_iff.2 ⟨hfault, ?_, ?_⟩
  · rw [hstart, h.target_eq]
    exact walk_of_directories (fun _ => h.directory) hw
  · rw [h.target_eq]; exact (h.file ho).2 he

theorem extendedBy_put_directory {location : Location} (hl : location ≠ [])
    (hnone : fs.entry? location = none) :
    fs.ExtendedBy (fun _ => False) (fs.put location .directory) := by
  refine ⟨rfl, fun {other} hd => ?_, fun {other data} _ => ?_⟩
  · rw [entry?_put fs hl]
    split
    · rfl
    · exact hd
  · rw [entry?_put fs hl]
    split
    · rename_i ho; subst ho; simp [hnone]
    · rfl

theorem extendedBy_createAlong : ∀ {names : List String} {fs : FileSystem} {made : Bool}
    {location : Location}, fs.ExtendedBy (fun _ => False) (fs.createAlong made location names).1
  | [], fs, _, _ => ExtendedBy.refl fs _
  | name :: names, fs, made, location => by
    rw [createAlong]
    split
    · exact extendedBy_createAlong
    split
    · exact extendedBy_createAlong
    split
    · exact ExtendedBy.refl fs _
    split
    · exact extendedBy_createAlong
    · exact ExtendedBy.refl fs _
    · rename_i hnone
      exact (extendedBy_put_directory (by simp) hnone).trans extendedBy_createAlong

/-- **Making directories** changes no file. -/
theorem extendedBy_createDirectories (fs : FileSystem) (path : Path) :
    fs.ExtendedBy (fun _ => False) (fs.createDirectories path).1 := by
  unfold createDirectories
  split
  · exact ExtendedBy.refl fs _
  split
  · exact ExtendedBy.refl fs _
  · exact extendedBy_createAlong

/-! ## Writing -/

/-- A path that leads to a place has a last name there, or leads to a directory. -/
theorem place_eq_ok {path : Path} {directory : Location} {name : String}
    (h : fs.place path = .ok ⟨directory, some name, false⟩) :
    fault? path = none ∧ name ≠ "" ∧ name ≠ "." ∧ name ≠ ".." ∧
      fs.entry? directory = some .directory ∧
      ∃ before, path.names = before ++ [name] ∧
        fs.walk (fs.start path) before = .ok directory := by
  unfold place at h
  split at h
  · cases h
  rename_i hfault
  dsimp only at h
  split at h
  · cases h
  rename_i last before hnames
  split at h
  · cases h
  rename_i destination hw
  split at h
  · cases h
  · cases h
  rename_i hdir
  simp only [Except.ok.injEq, Place.mk.injEq, Bool.not_eq_eq_eq_not, Bool.not_false,
    List.isEmpty_iff] at h
  obtain ⟨rfl, hname, hslashes⟩ := h
  rw [hslashes, List.length_nil, List.drop_zero] at hnames
  rw [hnames] at hslashes
  split at hname
  · cases hname
  rename_i hdots
  cases hname
  rw [not_or] at hdots
  have hne : name ≠ "" := by
    intro he
    rw [List.takeWhile_cons, if_pos (by simpa using he)] at hslashes
    cases hslashes
  refine ⟨hfault, hne, hdots.1, hdots.2, hdir, before.reverse, ?_, hw⟩
  rw [← List.reverse_reverse path.names, hnames, List.reverse_cons]

/-- What a file that was written stands for. -/
theorem write_eq_ok {path : Path} {data : ByteArray} (h : fs.write path data = .ok later) :
    later = fs.put (fs.target path) (.file data) ∧ fs.target path ≠ [] ∧
      fs.entry? (fs.target path) ≠ some .directory ∧ fault? path = none ∧
      fs.walk (fs.start path) path.names = .ok (fs.target path) := by
  unfold write at h
  split at h
  · cases h
  · cases h
  · cases h
  rename_i directory name hplace
  obtain ⟨hfault, hne, hdot, hdots, hdir, before, hnames, hw⟩ := place_eq_ok hplace
  split at h
  · cases h
  rename_i hlong
  have hgo : goTo directory name = directory ++ [name] := by
    rw [goTo, if_neg (by simp [hne, hdot]), if_neg hdots]
  have htarget : fs.target path = directory ++ [name] := by
    rw [target, hnames, List.foldl_append, ← eq_foldl_of_walk hw]; exact hgo
  rw [htarget]
  split at h
  · cases h
  · rename_i hnot
    cases h
    refine ⟨rfl, by simp, hnot, hfault, ?_⟩
    rw [hnames]
    refine walk_append_eq_ok_iff.2 ⟨directory, hw, walk_cons_eq_ok_iff.2 ⟨hdir, fun _ => ?_, ?_⟩⟩
    · exact Nat.le_of_not_lt hlong
    · rw [hgo, walk]

/-- **Writing a file** changes no other file. -/
theorem extendedBy_write {path : Path} {data : ByteArray} (h : fs.write path data = .ok later) :
    fs.ExtendedBy (· = fs.target path) later := by
  obtain ⟨rfl, hne, hnot, -, -⟩ := write_eq_ok h
  refine ⟨rfl, fun {other} hd => ?_, fun {other data'} ho => ?_⟩
  · rw [entry?_put fs hne, if_neg (by rintro rfl; exact hnot hd)]; exact hd
  · rw [entry?_put fs hne, if_neg ho]

/-- **A file that was written can be read.** -/
theorem read_of_write {path : Path} {data : ByteArray} (h : fs.write path data = .ok later) :
    later.read path = .ok data := by
  have hext := extendedBy_write h
  obtain ⟨rfl, hne, hnot, hfault, hw⟩ := write_eq_ok h
  refine read_eq_ok_iff.2 ⟨hfault, ?_, ?_⟩
  · rw [hext.target_eq]
    exact walk_of_directories (fun _ => hext.directory) hw
  · rw [hext.target_eq, entry?_put fs hne, if_pos rfl]

end

end CourseSite.FileSystem
