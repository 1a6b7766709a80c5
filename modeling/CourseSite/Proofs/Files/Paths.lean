/-
  Where a path leads that is made of names or joined to another one.

  * `Path.IsComponent`: a name that stands for itself in a path; `Path.IsName`: a name that a
    file can have.
  * `names_intercalate`, `parts_intercalate`: a path that is made of such names has just
    these names and parts; `parent?_intercalate` is the path without the last one.
  * `foldl_goTo_join`, `target_join`: a relative path leads on from where the path before it
    leads.
  * `isName_of_mem_target`: a path leads to names; `target_ofNames`: the absolute path of some
    names leads to them.
  * `staysWithin`: names that never lead more than some levels up from where they start.  Such
    names stay below the directory at that level (`prefix_of_staysWithin`), and others leave it
    (`not_prefix_of_staysWithin_eq_false`).
-/
import CourseSite.Proofs.Files.Writing

namespace CourseSite

/-! ## Pieces of a text -/

namespace Text
variable {divides : Char → Bool}

theorem exists_split_eq_cons (divides : Char → Bool) (cs : List Char) :
    ∃ piece pieces, split divides cs = piece :: pieces := by
  induction cs with
  | nil => exact ⟨[], [], rfl⟩
  | cons c cs ih =>
    obtain ⟨piece, pieces, h⟩ := ih
    simp only [split, h]
    split <;> exact ⟨_, _, rfl⟩

/-- A text is divided before and behind a character that divides it. -/
theorem split_append_cons {c : Char} (hc : divides c = true) (front back : List Char) :
    split divides (front ++ c :: back) = split divides front ++ split divides back := by
  induction front with
  | nil => simp [split, hc]
  | cons d front ih =>
    obtain ⟨piece, pieces, h⟩ := exists_split_eq_cons divides front
    simp only [List.cons_append, split, ih, h]
    split <;> rfl

theorem split_of_forall {cs : List Char} (h : ∀ c ∈ cs, divides c = false) :
    split divides cs = [cs] := by
  induction cs with
  | nil => rfl
  | cons c cs ih =>
    rw [split, if_neg (by simp [h c List.mem_cons_self]),
      ih fun d hd => h d (List.mem_cons_of_mem _ hd)]

/-- No piece has a character that divides. -/
theorem not_divides_of_mem_split {cs piece : List Char} (h : piece ∈ split divides cs) :
    ∀ c ∈ piece, divides c = false := by
  induction cs generalizing piece with
  | nil => rw [split, List.mem_singleton] at h; subst h; nofun
  | cons d cs ih =>
    obtain ⟨first, pieces, hsplit⟩ := exists_split_eq_cons divides cs
    rw [hsplit] at ih
    rw [split, hsplit] at h
    split at h
    · rcases List.mem_cons.1 h with rfl | h
      · nofun
      · exact ih h
    · rename_i hd
      rcases List.mem_cons.1 h with rfl | h
      · exact List.forall_mem_cons.2 ⟨Bool.eq_false_iff.2 hd, ih List.mem_cons_self⟩
      · exact ih (List.mem_cons_of_mem _ h)

end Text

namespace Path

/-! ## Components -/

/-- The name can be that of a file: it neither stays, nor leads up, nor divides. -/
structure IsName (name : String) : Prop where
  ne_empty : name ≠ ""
  ne_dot : name ≠ "."
  ne_dots : name ≠ ".."
  plain : ∀ c ∈ name.toList, c ≠ '/'

/-- The name stands for itself in a path, whichever of the two slashes divides it. -/
structure IsComponent (name : String) : Prop where
  ne_empty : name ≠ ""
  ne_dot : name ≠ "."
  ne_dots : name ≠ ".."
  plain : ∀ c ∈ name.toList, c ≠ '/' ∧ c ≠ '\\'

variable {name : String} {components : List String}

theorem isComponent_iff : IsComponent name ↔ name ≠ "" ∧ name ≠ "." ∧ name ≠ ".." ∧
    (name.toList.all fun c => c != '/' && c != '\\') = true := by
  simp only [List.all_eq_true, Bool.and_eq_true, bne_iff_ne]
  exact ⟨fun h => ⟨h.ne_empty, h.ne_dot, h.ne_dots, h.plain⟩,
    fun ⟨hempty, hdot, hdots, hplain⟩ => ⟨hempty, hdot, hdots, hplain⟩⟩

instance : Decidable (IsComponent name) := decidable_of_iff _ isComponent_iff.symm

theorem IsComponent.isName (h : IsComponent name) : IsName name :=
  ⟨h.ne_empty, h.ne_dot, h.ne_dots, fun c hc => (h.plain c hc).1⟩

theorem isComponent_index : IsComponent "index.html" := by decide

theorem isComponent_of_mem_concat (h : ∀ component ∈ components, IsComponent component)
    (hname : IsComponent name) : ∀ component ∈ components ++ [name], IsComponent component :=
  List.forall_mem_append.2 ⟨h, List.forall_mem_singleton.2 hname⟩

theorem IsName.names_eq (h : IsName name) : names ⟨name⟩ = [name] := by
  rw [names, Text.split_of_forall fun c hc => by simpa using h.plain c hc]
  simp

theorem IsComponent.names_eq (h : IsComponent name) : names ⟨name⟩ = [name] := h.isName.names_eq

theorem ne_slash_of_mem_names (path : Path) (h : name ∈ path.names) :
    ∀ c ∈ name.toList, c ≠ '/' := by
  obtain ⟨piece, hpiece, rfl⟩ := List.mem_map.1 h
  rw [String.toList_ofList]
  exact fun c hc => by simpa using Text.not_divides_of_mem_split hpiece c hc

theorem names_append_slash (front back : String) :
    names ⟨front ++ "/" ++ back⟩ = names ⟨front⟩ ++ names ⟨back⟩ := by
  rw [names, String.toList_append, String.toList_append, show "/".toList = ['/'] from rfl,
    List.append_assoc, List.singleton_append, Text.split_append_cons (by decide), List.map_append]
  rfl

/-- A path that is made of names has these names. -/
theorem names_intercalate_of_isName (hne : components ≠ [])
    (h : ∀ name ∈ components, IsName name) : names ⟨"/".intercalate components⟩ = components := by
  induction components with
  | nil => exact absurd rfl hne
  | cons first others ih =>
    have hfirst := (h first List.mem_cons_self).names_eq
    cases others with
    | nil => rw [String.intercalate_singleton]; exact hfirst
    | cons second others =>
      rw [String.intercalate_cons_cons, names_append_slash, hfirst,
        ih (by simp) fun name hname => h name (List.mem_cons_of_mem _ hname)]
      rfl

theorem names_intercalate (hne : components ≠ []) (h : ∀ name ∈ components, IsComponent name) :
    names ⟨"/".intercalate components⟩ = components :=
  names_intercalate_of_isName hne fun name hname => (h name hname).isName

/-- A path that is made of names has these parts. -/
theorem parts_intercalate (h : ∀ name ∈ components, IsComponent name) :
    parts ⟨"/".intercalate components⟩ = components := by
  cases components with
  | nil => rfl
  | cons first others =>
    rw [parts, names_intercalate (by simp) h]
    have hothers : others.filter (fun name => name ≠ "" && name ≠ ".") = others := by
      refine List.filter_eq_self.2 fun name hname => ?_
      have hname := h name (List.mem_cons_of_mem _ hname)
      simp [hname.ne_empty, hname.ne_dot]
    simp only [(h first List.mem_cons_self).ne_empty, if_false, hothers, List.singleton_append]

/-- A path that is made of names is relative. -/
theorem isAbsolute_intercalate (h : ∀ name ∈ components, IsComponent name) :
    isAbsolute ⟨"/".intercalate components⟩ = false := by
  cases components with
  | nil => rfl
  | cons first others =>
    obtain ⟨rest, hrest⟩ : ∃ rest, "/".intercalate (first :: others) = first ++ rest := by
      cases others with
      | nil => exact ⟨"", by simp⟩
      | cons second others => exact ⟨_, by rw [String.intercalate_cons_cons, String.append_assoc]⟩
    have hfirst := h first List.mem_cons_self
    cases hcs : first.toList with
    | nil => exact absurd (String.toList_eq_nil_iff.1 hcs) hfirst.ne_empty
    | cons c cs =>
      have hc := (hfirst.plain c (by rw [hcs]; exact List.mem_cons_self)).1
      simp [isAbsolute, hrest, hcs, hc]

theorem IsComponent.isAbsolute_eq (h : IsComponent name) : isAbsolute ⟨name⟩ = false := by
  rw [← String.intercalate_singleton (s := "/") (t := name)]
  exact isAbsolute_intercalate (by simpa using h)

theorem intercalate_concat (hne : components ≠ []) :
    "/".intercalate (components ++ [name]) = "/".intercalate components ++ "/" ++ name := by
  rw [String.intercalate_append_of_ne_nil hne (by simp), String.intercalate_singleton]

/-- The last name stands at the end of a path. -/
theorem exists_toList_intercalate_concat (components : List String) (name : String) :
    ∃ before : List Char, ("/".intercalate (components ++ [name])).toList = before ++ name.toList := by
  cases components with
  | nil => exact ⟨[], by rw [List.nil_append, String.intercalate_singleton]; rfl⟩
  | cons first others => exact ⟨_, by rw [intercalate_concat (by simp), String.toList_append]⟩

/-- A name that is joined to a path that is made of names comes behind these. -/
theorem join_intercalate (h : ∀ component ∈ components, IsComponent component)
    (hname : IsComponent name) :
    join ⟨"/".intercalate components⟩ ⟨name⟩ = ⟨"/".intercalate (components ++ [name])⟩ := by
  rw [join, hname.isAbsolute_eq, Bool.false_or]
  rcases List.eq_nil_or_concat components with rfl | ⟨front, last, hfront⟩
  · rfl
  · rw [List.concat_eq_append] at hfront
    subst hfront
    have hlast := h last (by simp)
    obtain ⟨before, hbefore⟩ := exists_toList_intercalate_concat front last
    have hne : last.toList ≠ [] := fun hnil => hlast.ne_empty (String.toList_eq_nil_iff.1 hnil)
    have hempty : ("/".intercalate (front ++ [last])).isEmpty = false := by
      rw [String.isEmpty_eq_false_iff, ne_eq, ← String.toList_eq_nil_iff, hbefore]
      simp [hne]
    have hslash : ("/".intercalate (front ++ [last])).toList.getLast? ≠ some '/' := by
      rw [hbefore, List.getLast?_append, Option.or_of_isSome (by simpa using hne)]
      exact fun heq => (hlast.plain _ (List.mem_of_getLast? heq)).1 rfl
    have hfront : front ++ [last] ≠ [] := by simp
    dsimp only
    rw [hempty, if_neg (by decide), if_neg (by simpa using hslash), intercalate_concat hfront]

/-! ## The directory of a path -/

/-- A component at the end of a path is not trimmed. -/
theorem trimEnd_of_component (h : IsComponent name) (back : List Char) :
    beforeLast.trimEnd (name.toList.reverse ++ back) = name.toList.reverse ++ back := by
  have hplain : ∀ c ∈ name.toList.reverse, c ≠ '/' := fun c hc =>
    (h.plain c (List.mem_reverse.1 hc)).1
  cases hcs : name.toList.reverse with
  | nil => exact absurd (String.toList_eq_nil_iff.1 (List.reverse_eq_nil_iff.1 hcs)) h.ne_empty
  | cons c cs =>
    rw [hcs] at hplain
    have hc := hplain c List.mem_cons_self
    cases cs with
    | nil =>
      have hdot : c ≠ '.' := fun he => h.ne_dot (by
        rw [← String.toList_inj, ← List.reverse_reverse name.toList, hcs, he]; rfl)
      unfold beforeLast.trimEnd
      split
      · rename_i he; exact absurd (List.cons.inj he).1 hc
      · rename_i he; exact absurd (List.cons.inj he).1 hdot
      · rfl
    | cons d cs =>
      have hd := hplain d (by simp)
      unfold beforeLast.trimEnd
      split
      · rename_i he; exact absurd (List.cons.inj he).1 hc
      · rename_i he; exact absurd (List.cons.inj (List.cons.inj he).2).1 hd
      · rfl

/-- A path without its last component. -/
theorem parent?_intercalate (h : ∀ component ∈ components, IsComponent component)
    (hname : IsComponent name) :
    parent? ⟨"/".intercalate (components ++ [name])⟩ = some ⟨"/".intercalate components⟩ := by
  have hparts : (parts ⟨"/".intercalate (components ++ [name])⟩).isEmpty = false := by
    rw [parts_intercalate (isComponent_of_mem_concat h hname)]; simp
  have hslash : ∀ c ∈ name.toList.reverse, (c != '/') = true := fun c hc => by
    simpa using (hname.plain c (List.mem_reverse.1 hc)).1
  rw [parent?, hparts]
  simp only [Bool.false_eq_true, if_false]
  refine congrArg (fun text => some (Path.mk text)) ?_
  rw [← String.toList_inj, String.toList_ofList]
  rcases List.eq_nil_or_concat components with rfl | ⟨front, last, hfront⟩
  · rw [List.nil_append, String.intercalate_singleton, beforeLast,
      ← List.append_nil name.toList.reverse, trimEnd_of_component hname,
      List.dropWhile_append_of_pos hslash]
    rfl
  · rw [List.concat_eq_append] at hfront
    subst hfront
    have hlast : IsComponent last := h last (by simp)
    obtain ⟨before, hbefore⟩ := exists_toList_intercalate_concat front last
    rw [intercalate_concat (by simp), String.toList_append, String.toList_append, beforeLast,
      List.reverse_append, trimEnd_of_component hname, show "/".toList = ['/'] from rfl]
    rw [List.dropWhile_append_of_pos hslash, hbefore, List.reverse_append, List.reverse_append,
      List.reverse_singleton, List.singleton_append, List.dropWhile_cons_of_neg (by simp)]
    have hne : (last.toList.reverse ++ before.reverse).isEmpty = false := by
      simp [String.toList_eq_nil_iff, hlast.ne_empty]
    rw [beforeLast.trimEnd, hne, if_neg (by decide), trimEnd_of_component hlast,
      List.reverse_append, List.reverse_reverse, List.reverse_reverse]

/-! ## Joined paths -/

variable {base relative : Path}

/-- A relative path behind a path starts where that one does. -/
theorem isAbsolute_join (h : relative.isAbsolute = false) :
    (base.join relative).isAbsolute = base.isAbsolute := by
  unfold join
  split
  · rename_i he
    have hbase : base.text = "" := by simpa [h] using he
    rw [h, isAbsolute, hbase]; rfl
  · rename_i he
    have hne : base.text.toList ≠ [] := fun hnil => he (by
      rw [String.toList_eq_nil_iff.1 hnil]; simp)
    obtain ⟨c, cs, hcs⟩ := List.exists_cons_of_ne_nil hne
    split <;> simp [isAbsolute, hcs]

theorem join_of_isAbsolute (h : relative.isAbsolute = true) : base.join relative = relative := by
  rw [join, h]; rfl

/-- A relative path behind a path leads on from where that one leads. -/
theorem foldl_goTo_join (h : relative.isAbsolute = false) (location : Location) :
    (base.join relative).names.foldl FileSystem.goTo location =
      relative.names.foldl FileSystem.goTo (base.names.foldl FileSystem.goTo location) := by
  unfold join
  split
  · rename_i he
    have hbase : base.text = "" := by simpa [h] using he
    have hnames : base.names = [""] := by
      obtain ⟨text⟩ := base
      subst hbase; rfl
    rw [hnames]; rfl
  split
  · rename_i hlast
    obtain ⟨front, hfront⟩ := List.getLast?_eq_some_iff.1 (beq_iff_eq.1 hlast)
    have hbase : base.text = String.ofList front ++ "/" := by
      rw [← String.toList_inj, hfront, String.toList_append, String.toList_ofList]; rfl
    have hslash : base = ⟨String.ofList front ++ "/" ++ ""⟩ := by
      rw [String.append_empty, ← hbase]
    -- The slash at the end bounds an empty name, which leads nowhere.
    rw [hbase, names_append_slash, hslash, names_append_slash, List.foldl_append, List.foldl_append]
    rfl
  · rw [names_append_slash, List.foldl_append]

end Path

namespace FileSystem

/-- A relative path behind a path leads on from where that one leads. -/
theorem target_join (fs : FileSystem) {base relative : Path} (h : relative.isAbsolute = false) :
    fs.target (base.join relative) = relative.names.foldl goTo (fs.target base) := by
  rw [target, target, start, Path.isAbsolute_join h, Path.foldl_goTo_join h]; rfl

theorem goTo_of_isName {name : String} (h : Path.IsName name) (location : Location) :
    goTo location name = location ++ [name] := by
  rw [goTo, if_neg (by simp [h.ne_empty, h.ne_dot]), if_neg h.ne_dots]

theorem goTo_of_isComponent {name : String} (h : Path.IsComponent name) (location : Location) :
    goTo location name = location ++ [name] := goTo_of_isName h.isName location

/-- Names lead down along themselves. -/
theorem foldl_goTo_of_isName {names : List String} (h : ∀ name ∈ names, Path.IsName name)
    (location : Location) : names.foldl goTo location = location ++ names := by
  induction names generalizing location with
  | nil => simp
  | cons name names ih =>
    rw [List.foldl_cons, goTo_of_isName (h name List.mem_cons_self),
      ih fun name hname => h name (List.mem_cons_of_mem _ hname), List.append_assoc,
      List.singleton_append]

theorem foldl_goTo_of_isComponent {components : List String}
    (h : ∀ name ∈ components, Path.IsComponent name) (location : Location) :
    components.foldl goTo location = location ++ components :=
  foldl_goTo_of_isName (fun name hname => (h name hname).isName) location

/-- What paths lead to has names, if the current directory has. -/
theorem isName_of_mem_target {fs : FileSystem} (hcurrent : ∀ name ∈ fs.current, Path.IsName name)
    (path : Path) : ∀ name ∈ fs.target path, Path.IsName name := by
  have hstart : ∀ name ∈ fs.start path, Path.IsName name := by
    unfold start
    split
    · nofun
    · exact hcurrent
  have hplain : ∀ name ∈ path.names, ∀ c ∈ name.toList, c ≠ '/' :=
    fun _ => path.ne_slash_of_mem_names
  rw [target]
  generalize fs.start path = location, path.names = names at hstart hplain
  induction names generalizing location with
  | nil => exact hstart
  | cons name names ih =>
    rw [List.foldl_cons]
    refine ih _ ?_ fun other hother => hplain other (List.mem_cons_of_mem _ hother)
    unfold goTo
    split
    · exact hstart
    rename_i hstay
    split
    · exact fun other hother => hstart other (List.dropLast_subset _ hother)
    · rename_i hup
      rw [not_or] at hstay
      exact List.forall_mem_append.2 ⟨hstart, List.forall_mem_singleton.2
        ⟨hstay.1, hstay.2, hup, hplain name List.mem_cons_self⟩⟩

/-- The absolute path of some names leads to them. -/
theorem target_ofNames (fs : FileSystem) {names : List String}
    (h : ∀ name ∈ names, Path.IsName name) : fs.target (.ofNames names) = names := by
  have hstart : fs.start (.ofNames names) = [] := by
    rw [start, Path.isAbsolute, Path.ofNames, String.toList_append]; rfl
  have hnames := Path.names_append_slash "" ("/".intercalate names)
  rw [String.empty_append] at hnames
  rw [target, hstart, Path.ofNames, hnames, List.foldl_append]
  cases names with
  | nil => rfl
  | cons first others =>
    rw [Path.names_intercalate_of_isName (by simp) h, foldl_goTo_of_isName h]; rfl

/-- A path that is made of names leads down along these. -/
theorem target_join_intercalate (fs : FileSystem) (base : Path) {components : List String}
    (h : ∀ name ∈ components, Path.IsComponent name) :
    fs.target (base.join ⟨"/".intercalate components⟩) = fs.target base ++ components := by
  rw [target_join fs (Path.isAbsolute_intercalate h)]
  cases components with
  | nil => rw [List.append_nil]; rfl
  | cons first others =>
    rw [Path.names_intercalate (by simp) h, foldl_goTo_of_isComponent h]

/-! ## Names that stay below a directory -/

/-- Read one after the other, the names never lead more than `depth` levels up from where they
    start. -/
def staysWithin : Nat → List String → Bool
  | _, [] => true
  | depth, name :: names =>
    if name = "" ∨ name = "." then staysWithin depth names
    else if name = ".." then 0 < depth && staysWithin (depth - 1) names
    else staysWithin (depth + 1) names

variable {names : List String}

/-- Such names stay below a directory that lies so many levels up. -/
theorem prefix_of_staysWithin {base inner : Location} (h : staysWithin inner.length names = true) :
    base <+: names.foldl goTo (base ++ inner) := by
  induction names generalizing inner with
  | nil => exact List.prefix_append ..
  | cons name names ih =>
    rw [List.foldl_cons, goTo]
    rw [staysWithin] at h
    split at h
    · rw [if_pos ‹_›]; exact ih h
    rename_i hstay
    rw [if_neg hstay]
    split at h
    · rename_i hup
      rw [if_pos hup]
      rcases List.eq_nil_or_concat inner with rfl | ⟨front, last, hinner⟩
      · cases h
      · rw [List.concat_eq_append] at hinner
        subst hinner
        rw [← List.append_assoc, List.dropLast_concat]
        rw [List.length_append, List.length_singleton, Nat.add_sub_cancel] at h
        exact ih (Bool.and_eq_true_iff.1 h).2
    · rename_i hup
      rw [if_neg hup, List.append_assoc]
      exact ih (by rw [List.length_append, List.length_singleton]; exact h)

theorem not_mem_foldl_goTo {other : String} (hnames : other ∉ names) {location : Location}
    (h : other ∉ location) : other ∉ names.foldl goTo location := by
  induction names generalizing location with
  | nil => exact h
  | cons name names ih =>
    rw [List.mem_cons, not_or] at hnames
    rw [List.foldl_cons]
    refine ih hnames.2 ?_
    unfold goTo
    split
    · exact h
    split
    · exact fun hm => h (List.dropLast_subset _ hm)
    · simp [h, hnames.1]

/-- Any other names leave a directory whose own name does not occur among them. -/
theorem not_prefix_of_staysWithin_eq_false {other : String} (hnames : other ∉ names)
    {inner : Location} (h : staysWithin inner.length names = false) :
    ¬ [other] <+: names.foldl goTo (other :: inner) := by
  induction names generalizing inner with
  | nil => cases h
  | cons name names ih =>
    rw [List.mem_cons, not_or] at hnames
    rw [List.foldl_cons, goTo]
    rw [staysWithin] at h
    split at h
    · rw [if_pos ‹_›]; exact ih hnames.2 h
    rename_i hstay
    rw [if_neg hstay]
    split at h
    · rename_i hup
      rw [if_pos hup]
      rcases List.eq_nil_or_concat inner with rfl | ⟨front, last, hinner⟩
      · -- The names climb out of the directory here, and never enter it again.
        intro hstarts
        exact not_mem_foldl_goTo hnames.2 (by simp) (hstarts.subset (by simp))
      · rw [List.concat_eq_append] at hinner
        subst hinner
        rw [← List.cons_append, List.dropLast_concat]
        rw [List.length_append, List.length_singleton, Nat.add_sub_cancel,
          decide_eq_true (Nat.succ_pos _), Bool.true_and] at h
        exact ih hnames.2 h
    · rename_i hup
      rw [if_neg hup, List.cons_append]
      exact ih hnames.2 (by rw [List.length_append, List.length_singleton]; exact h)

end FileSystem

end CourseSite
