/-
  What a manifest and a document have to say so that they can be read.

  * `Manifest.IsEntryName`: a name that may stand in a manifest.
  * `Lists`: the manifest of a directory is there and lists some texts;
    `readManifest_eq_ok_iff`: it is read if these are such names, and none is there twice.
  * `FrontMatter.Opens`, `FrontMatter.Closes`: where a front matter starts and ends.
  * `FrontMatter.get?_settings`: what a setting is.
  * `IsDocument`: a text whose front matter, if it is opened, is closed and has settings;
    `readDocument_isOk_iff`: just these documents are read.
-/
import Mathlib.Data.List.Induction
import CourseSite.Content.Load
import CourseSite.Proofs.Text.Dictionary

namespace CourseSite

/-! ## Manifests -/

namespace Manifest

/-- The text may stand in a manifest: it is not blank, is no path and is not hidden. -/
structure IsEntryName (entry : String) : Prop where
  not_blank : Text.trim entry ≠ ""
  plain : ∀ c ∈ entry.toList, c ≠ '/' ∧ c ≠ '\\'
  shown : ∀ c, entry.toList.head? = some c → c ≠ '.' ∧ c ≠ '_'

theorem nameProblem?_eq_none_iff {entry : String} :
    nameProblem? entry = none ↔ IsEntryName entry := by
  unfold nameProblem?
  split
  · exact ⟨nofun, fun h => absurd ‹_› h.not_blank⟩
  rename_i hblank
  split
  · rename_i hpath
    obtain ⟨c, hc, hslash⟩ := List.any_eq_true.1 hpath
    have hslash : c = '/' ∨ c = '\\' := by simpa using hslash
    refine ⟨nofun, fun h => ?_⟩
    rcases hslash with rfl | rfl
    · exact absurd rfl (h.plain _ hc).1
    · exact absurd rfl (h.plain _ hc).2
  rename_i hpath
  split
  · rename_i hhidden
    obtain ⟨c, hc, hmark⟩ := (Option.any_eq_true ..).1 hhidden
    have hmark : c = '.' ∨ c = '_' := by simpa using hmark
    refine ⟨nofun, fun h => ?_⟩
    rcases hmark with rfl | rfl
    · exact absurd rfl (h.shown _ hc).1
    · exact absurd rfl (h.shown _ hc).2
  rename_i hhidden
  refine ⟨fun _ => ⟨hblank, fun c hc => ?_, fun c hc => ?_⟩, fun _ => rfl⟩
  · simpa [not_or] using fun h => hpath (List.any_eq_true.2 ⟨c, hc, h⟩)
  · simpa [not_or] using fun h => hhidden ((Option.any_eq_true ..).2 ⟨c, hc, h⟩)

theorem problem?_eq_none_iff {entries : List String} {seen : List String} :
    problem? seen entries = none ↔
      (∀ entry ∈ entries, IsEntryName entry ∧ entry ∉ seen) ∧ entries.Nodup := by
  induction entries generalizing seen with
  | nil => simp [problem?]
  | cons entry entries ih =>
    rw [List.forall_mem_cons, List.nodup_cons, ← nameProblem?_eq_none_iff, problem?]
    cases nameProblem? entry with
    | some problem => simp
    | none =>
      by_cases hseen : entry ∈ seen
      · simp [hseen]
      rw [if_neg (by simpa using hseen), ih]
      constructor
      · rintro ⟨hall, hnodup⟩
        refine ⟨⟨⟨rfl, hseen⟩, fun other hother => ?_⟩, fun hm => ?_, hnodup⟩
        · exact ⟨(hall other hother).1, fun hm => (hall other hother).2 (List.mem_cons_of_mem _ hm)⟩
        · exact (hall entry hm).2 List.mem_cons_self
      · rintro ⟨⟨-, hall⟩, hnot, hnodup⟩
        refine ⟨fun other hother => ⟨(hall other hother).1, fun hm => ?_⟩, hnodup⟩
        rcases List.mem_cons.1 hm with rfl | hm
        · exact hnot hother
        · exact (hall other hother).2 hm

/-- The text of a manifest lists these texts; a blank one lists none. -/
def ListsNames (reader : Yaml.Reader) (text : String) (entries : List String) : Prop :=
  if Text.trim text = "" then entries = [] else reader.names text = .ok entries

theorem read_eq_ok_iff {reader : Yaml.Reader} {text : String} {entries : List String} :
    read reader text = .ok entries ↔
      ListsNames reader text entries ∧ (∀ entry ∈ entries, IsEntryName entry) ∧ entries.Nodup := by
  unfold read ListsNames
  split
  · constructor
    · rintro h; cases h; simp
    · rintro ⟨rfl, -⟩; rfl
  · cases hlist : reader.names text with
    | error => simp
    | ok found =>
      have hproblem := @problem?_eq_none_iff found []
      simp only [List.not_mem_nil, not_false_eq_true, and_true] at hproblem
      dsimp only
      cases hp : problem? [] found with
      | some problem =>
        rw [hp] at hproblem
        simp only [reduceCtorEq, false_iff, Except.ok.injEq] at hproblem ⊢
        rintro ⟨rfl, h⟩
        exact hproblem h
      | none =>
        rw [hp] at hproblem
        simp only [Except.ok.injEq]
        constructor
        · rintro rfl; exact ⟨rfl, hproblem.1 rfl⟩
        · exact And.left

end Manifest

namespace ContentTree

/-- The manifest of a directory is there, and lists these texts. -/
def Lists (reader : Yaml.Reader) (fs : FileSystem) (format : ContentFormat) (directory : Path)
    (entries : List String) : Prop :=
  fs.isFile (directory.join ⟨format.manifest⟩) = true ∧
    ∃ text, fs.readText (directory.join ⟨format.manifest⟩) = .ok text ∧
      Manifest.ListsNames reader text entries

variable {reader : Yaml.Reader} {fs : FileSystem} {format : ContentFormat} {directory path : Path}
  {entries entries' : List String}

theorem Lists.unique (h : Lists reader fs format directory entries)
    (h' : Lists reader fs format directory entries') : entries = entries' := by
  obtain ⟨-, text, htext, hlist⟩ := h
  obtain ⟨-, text', htext', hlist'⟩ := h'
  rw [htext] at htext'
  cases htext'
  unfold Manifest.ListsNames at hlist hlist'
  split at hlist
  · rw [hlist, if_pos ‹_›] at *; exact hlist'.symm
  · rw [if_neg ‹_›, hlist] at hlist'
    cases hlist'; rfl

/-- **Manifests.** A manifest is read if it lists admissible names, none of them twice. -/
theorem readManifest_eq_ok_iff :
    readManifest reader fs format directory = .ok entries ↔
      Lists reader fs format directory entries ∧ (∀ entry ∈ entries, Manifest.IsEntryName entry) ∧
        entries.Nodup := by
  unfold readManifest Lists
  dsimp only
  cases hfile : fs.isFile (directory.join ⟨format.manifest⟩) with
  | false => simp
  | true =>
    simp only [Bool.not_true, Bool.false_eq_true, if_false, true_and]
    cases htext : fs.readText (directory.join ⟨format.manifest⟩) with
    | error => simp
    | ok text =>
      simp only [Except.ok.injEq, exists_eq_left', ← Manifest.read_eq_ok_iff]
      cases Manifest.read reader text <;> simp

end ContentTree

/-! ## Documents -/

namespace FrontMatter

/-- The text opens a front matter, behind which the rest stands. -/
def Opens (text : String) (rest : List Char) : Prop :=
  text.toList = "---\n".toList ++ rest ∨ text.toList = "---\r\n".toList ++ rest

theorem behindOpening?_eq_some_iff {text : String} {rest : List Char} :
    behindOpening? text.toList = some rest ↔ Opens text rest := by
  unfold Opens
  generalize text.toList = cs
  unfold behindOpening?
  split
  · simp [eq_comm]
  · simp [eq_comm]
  · rename_i hlf hcrlf
    refine ⟨nofun, ?_⟩
    rintro (rfl | rfl)
    · exact absurd rfl (hlf rest)
    · exact absurd rfl (hcrlf rest)

/-- The first closing line ends the settings, and the body follows it. -/
def Closes (rest : List Char) (yaml body : String) : Prop :=
  ∃ before line behind, Text.lines rest = before ++ line :: behind ∧ isClosing line = true ∧
    (∀ earlier ∈ before, isClosing earlier = false) ∧ yaml = String.ofList before.flatten ∧
      body = String.ofList behind.flatten

theorem splitLines_eq_some_iff {lines : List (List Char)} {yaml body : List Char} :
    splitLines lines = some (yaml, body) ↔
      ∃ before line behind, lines = before ++ line :: behind ∧ isClosing line = true ∧
        (∀ earlier ∈ before, isClosing earlier = false) ∧ yaml = before.flatten ∧
          body = behind.flatten := by
  induction lines generalizing yaml body with
  | nil => simp [splitLines]
  | cons line lines ih =>
    rw [splitLines]
    split
    · rename_i hclosing
      simp only [Option.some.injEq, Prod.mk.injEq]
      constructor
      · rintro ⟨rfl, rfl⟩
        exact ⟨[], line, lines, rfl, hclosing, nofun, rfl, rfl⟩
      · rintro ⟨before, last, behind, hlines, -, hbefore, rfl, rfl⟩
        cases before with
        | nil => cases hlines; exact ⟨rfl, rfl⟩
        | cons first before =>
          cases hlines
          rw [hbefore _ List.mem_cons_self] at hclosing; cases hclosing
    · rename_i hopen
      simp only [Option.map_eq_some_iff, Prod.mk.injEq, Prod.exists, ih]
      constructor
      · rintro ⟨front, _, ⟨before, last, behind, rfl, hlast, hbefore, rfl, rfl⟩, rfl, rfl⟩
        exact ⟨line :: before, last, behind, rfl, hlast,
          List.forall_mem_cons.2 ⟨by simpa using hopen, hbefore⟩, rfl, rfl⟩
      · rintro ⟨before, last, behind, hlines, hlast, hbefore, rfl, rfl⟩
        cases before with
        | nil => cases hlines; exact absurd hlast hopen
        | cons first before =>
          cases hlines
          exact ⟨_, _, ⟨before, last, behind, rfl, hlast, (List.forall_mem_cons.1 hbefore).2, rfl,
            rfl⟩, rfl, rfl⟩

theorem closes_iff {rest : List Char} {yaml body : String} :
    Closes rest yaml body ↔ splitLines (Text.lines rest) = some (yaml.toList, body.toList) := by
  rw [splitLines_eq_some_iff]
  unfold Closes
  simp only [← String.toList_inj, String.toList_ofList]

/-- The settings of a front matter are blank, null or a mapping. -/
def HasSettings (reader : Yaml.Reader) (yaml : String) : Prop :=
  Text.trim yaml = "" ∨ reader.value yaml = .ok .null ∨
    ∃ members, reader.value yaml = .ok (.mapping members)

theorem parse_isOk_iff {reader : Yaml.Reader} {yaml : String} :
    (∃ settings, parse reader yaml = .ok settings) ↔ HasSettings reader yaml := by
  unfold parse HasSettings
  split
  · simp [*]
  · rename_i hblank
    simp only [hblank, false_or]
    rcases reader.value yaml with e | (_ | b | n | x | text | items | members | ⟨tag, value⟩) <;>
      simp

theorem settings_concat {members : List (Yaml.Value × Yaml.Value)} {key value : Yaml.Value} :
    settings (members ++ [(key, value)]) =
      match text? key, scalar? value with
      | some name, some scalar => (settings members).insert name scalar
      | _, _ => settings members := by
  rw [settings, List.foldl_append]; rfl

/-- **Settings.** The last scalar under a key with the name of a setting is the setting. -/
theorem get?_settings {members : List (Yaml.Value × Yaml.Value)} {name : String} :
    (settings members).get? name =
      (members.reverse.find? fun member =>
        text? member.1 = some name ∧ (scalar? member.2).isSome).bind fun member =>
          scalar? member.2 := by
  induction members using List.reverseRecOn with
  | nil => rfl
  | append_singleton members member ih =>
    obtain ⟨key, value⟩ := member
    rw [settings_concat, List.reverse_concat, List.find?_cons]
    cases hkey : text? key with
    | none => simp [ih]
    | some text =>
      cases hvalue : scalar? value with
      | none => simp [ih]
      | some scalar =>
        dsimp only
        rw [Dictionary.get?_insert]
        by_cases hname : text = name
        · simp [hname, hvalue]
        · simp [hname, ih]

end FrontMatter

namespace ContentTree

/-- The file is a text, and its front matter, if one is opened, is closed and has settings. -/
def IsDocument (reader : Yaml.Reader) (fs : FileSystem) (path : Path) : Prop :=
  ∃ text, fs.readText path = .ok text ∧ ∀ rest, FrontMatter.Opens text rest →
    ∃ yaml body, FrontMatter.Closes rest yaml body ∧ FrontMatter.HasSettings reader yaml

/-- **Documents.** Just these documents are read. -/
theorem readDocument_isOk_iff {reader : Yaml.Reader} {fs : FileSystem} {path : Path} :
    (∃ found, readDocument reader fs path = .ok found) ↔ IsDocument reader fs path := by
  unfold readDocument IsDocument
  cases fs.readText path with
  | error => simp
  | ok text =>
    simp only [Except.ok.injEq, exists_eq_left', FrontMatter.closes_iff, FrontMatter.split,
      ← FrontMatter.behindOpening?_eq_some_iff]
    cases FrontMatter.behindOpening? text.toList with
    | none => simp
    | some rest =>
      simp only [Option.some.injEq, forall_eq']
      cases FrontMatter.splitLines (Text.lines rest) with
      | none => simp
      | some parts =>
        obtain ⟨yaml, body⟩ := parts
        have hparts : (∃ found : String, ∃ behind : String,
            some (yaml, body) = some (found.toList, behind.toList) ∧
              FrontMatter.HasSettings reader found) ↔
              FrontMatter.HasSettings reader (String.ofList yaml) := by
          constructor
          · rintro ⟨found, behind, heq, hfound⟩
            cases heq
            rwa [String.ofList_toList]
          · intro h
            exact ⟨_, String.ofList body, by simp, h⟩
        rw [hparts, ← FrontMatter.parse_isOk_iff]
        cases hparse : FrontMatter.parse reader (String.ofList yaml) <;> simp [hparse]

end ContentTree

end CourseSite
