/-
  References to environment variables in settings, as they are documented and as they are replaced.

  * `Reads`: the name and the default of a reference.
  * `Piece`, `Cut`: a text cut into references between braces and other characters.
  * `Stands`, `Documented`: what a piece stands for, and what a text is replaced by if nothing but
    the references between braces counts.
  * `Quiet`, `IsPlain`: in front of a dollar sign that belongs to no such reference nothing else
    counts as one.
  * `isPlain_iff`: plain texts are replaced as documented, and all others are not, in some
    environment; `expandField_fails_iff`: where a plain text fails.
-/
import CourseSite.Proofs.Directive.Equations
import CourseSite.Settings.Load
import Mathlib.Data.List.Sublists

namespace CourseSite.Settings

open Attempt (map_map map_eq_ok_iff map_eq_error_iff bind_eq_ok_iff bind_eq_error_iff)

/-- A reference between braces, or another character. -/
inductive Piece where
  | char (c : Char)
  | reference (inside : List Char)

variable {environment : Environment} {inside name rest cs value : List Char}
  {fallback : Option (List Char)} {pieces : List Piece} {text : String}

/-! ## References -/

/-- What divides a name from its default. -/
def divider : List Char := [':', '-']

/-- What stands between the braces is a name with a default, or a name alone.  The name reaches up
    to the first `:-`, which counts only behind something. -/
inductive Reads : List Char → List Char → Option (List Char) → Prop
  | default {name fallback : List Char} : name ≠ [] → ¬ divider <:+: name →
      Reads (name ++ divider ++ fallback) name (some fallback)
  | alone {name : List Char} : ¬ divider <:+: name ∨ divider <+: name → Reads name name none

theorem splitDefault_spec (cs : List Char) :
    (∃ name fallback, cs = name ++ divider ++ fallback ∧ ¬ divider <:+: name ∧
      splitDefault cs = (name, some fallback)) ∨
    (¬ divider <:+: cs ∧ splitDefault cs = (cs, none)) := by
  fun_induction splitDefault cs with
  | case1 => exact .inr ⟨by simp [divider], rfl⟩
  | case2 cs => exact .inl ⟨[], cs, rfl, by simp [divider], rfl⟩
  | case3 c cs hne ih =>
    have hfirst {name : List Char} (h : divider <+: c :: name) (hname : name <+: cs) : False := by
      obtain ⟨behind, h⟩ := h
      obtain ⟨more, rfl⟩ := hname
      cases h
      exact hne _ rfl rfl
    rcases ih with ⟨name, fallback, rfl, hname, heq⟩ | ⟨hcs, heq⟩
    · refine .inl ⟨c :: name, fallback, rfl, fun h => ?_, by rw [heq]⟩
      rcases List.infix_cons_iff.1 h with h | h
      · exact hfirst h (by simp)
      · exact hname h
    · refine .inr ⟨fun h => ?_, by rw [heq]⟩
      rcases List.infix_cons_iff.1 h with h | h
      · exact hfirst h List.prefix_rfl
      · exact hcs h

theorem splitDefault_append (h : ¬ divider <:+: name) (fallback : List Char) :
    splitDefault (name ++ divider ++ fallback) = (name, some fallback) := by
  rcases splitDefault_spec (name ++ divider ++ fallback) with
    ⟨name', fallback', heq, hname', hsplit⟩ | ⟨hnone, -⟩
  · rw [hsplit]
    rw [List.append_assoc, List.append_assoc, List.append_eq_append_iff] at heq
    -- neither name can reach into the divider behind the other one
    rcases heq with ⟨between, rfl, heq⟩ | ⟨between, rfl, heq⟩
    · rcases between with _ | ⟨c, _ | ⟨d, between⟩⟩
      · cases heq; simp
      · cases heq
      · cases heq
        exact absurd ⟨name, between, by simp [divider]⟩ hname'
    · rcases between with _ | ⟨c, _ | ⟨d, between⟩⟩
      · cases heq; simp
      · cases heq
      · cases heq
        exact absurd ⟨name', between, by simp [divider]⟩ h
  · exact absurd ⟨name, fallback, rfl⟩ hnone

theorem exists_reads (inside : List Char) : ∃ name fallback, Reads inside name fallback := by
  rcases splitDefault_spec inside with ⟨name, fallback, rfl, hname, -⟩ | ⟨hinside, -⟩
  · cases name with
    | nil => exact ⟨_, none, .alone (.inr ⟨fallback, rfl⟩)⟩
    | cons c name => exact ⟨_, _, .default (List.cons_ne_nil c name) hname⟩
  · exact ⟨_, none, .alone (.inl hinside)⟩

theorem reference_of_reads (h : Reads inside name fallback) :
    reference inside = (name, fallback) := by
  cases h with
  | default hne hname =>
    rw [reference, splitDefault_append hname]
    cases name with
    | nil => exact absurd rfl hne
    | cons => rfl
  | alone h =>
    rcases h with h | ⟨more, rfl⟩
    · rcases splitDefault_spec inside with ⟨name, fallback, rfl, -, -⟩ | ⟨-, heq⟩
      · exact absurd ⟨name, fallback, rfl⟩ h
      · rw [reference, heq]
        cases inside <;> rfl
    · rfl

/-! ## Pieces -/

/-- A dollar sign and braces with something between them stand at the start. -/
def StartsReference (cs : List Char) : Prop :=
  ∃ inside rest, '\x7d' ∉ inside ∧ cs = '$' :: '\x7b' :: (inside ++ '\x7d' :: rest)

/-- The text is cut into its references between braces and its other characters. -/
inductive Cut : List Char → List Piece → Prop
  | nil : Cut [] []
  | reference {inside rest : List Char} {pieces : List Piece} : '\x7d' ∉ inside → Cut rest pieces →
      Cut ('$' :: '\x7b' :: (inside ++ '\x7d' :: rest)) (.reference inside :: pieces)
  | char {c : Char} {cs : List Char} {pieces : List Piece} : ¬ StartsReference (c :: cs) →
      Cut cs pieces → Cut (c :: cs) (.char c :: pieces)

theorem splitBrace_eq_some_iff :
    splitBrace cs = some (inside, rest) ↔ '\x7d' ∉ inside ∧ cs = inside ++ '\x7d' :: rest := by
  induction cs generalizing inside with
  | nil => simp [splitBrace]
  | cons c cs ih =>
    rw [splitBrace]
    split
    · rename_i hc
      subst hc
      cases inside with
      | nil => simp
      | cons d inside =>
        simp only [Option.some.injEq, Prod.mk.injEq, List.mem_cons, List.cons_append,
          List.cons.injEq]
        tauto
    · rename_i hc
      cases inside with
      | nil => simp [hc]
      | cons d inside =>
        simp only [Option.map_eq_some_iff, Prod.exists, Prod.mk.injEq, List.cons.injEq,
          List.mem_cons, List.cons_append]
        constructor
        · rintro ⟨_, _, hsome, ⟨rfl, rfl⟩, rfl⟩
          rw [ih] at hsome
          exact ⟨by simp [Ne.symm hc, hsome.1], rfl, hsome.2⟩
        · rintro ⟨hnot, rfl, hcs⟩
          exact ⟨_, _, ih.2 ⟨fun h => hnot (.inr h), hcs⟩, ⟨rfl, rfl⟩, rfl⟩

theorem splitBrace_eq_none_iff : splitBrace cs = none ↔ '\x7d' ∉ cs := by
  rw [Option.eq_none_iff_forall_ne_some]
  constructor
  · intro h hmem
    obtain ⟨inside, rest, rfl, hinside⟩ := List.eq_append_cons_of_mem hmem
    exact h (inside, rest) (splitBrace_eq_some_iff.2 ⟨hinside, rfl⟩)
  · rintro h ⟨inside, rest⟩ hsome
    rw [(splitBrace_eq_some_iff.1 hsome).2] at h
    simp at h

theorem exists_cut (cs : List Char) : ∃ pieces, Cut cs pieces := by
  induction hlength : cs.length using Nat.strong_induction_on generalizing cs with
  | _ length ih =>
    by_cases hstarts : StartsReference cs
    · obtain ⟨inside, rest, hinside, rfl⟩ := hstarts
      obtain ⟨pieces, hcut⟩ := ih rest.length (by simp at hlength; omega) rest rfl
      exact ⟨_, .reference hinside hcut⟩
    · cases cs with
      | nil => exact ⟨[], .nil⟩
      | cons c cs =>
        obtain ⟨pieces, hcut⟩ := ih cs.length (by simp at hlength; omega) cs rfl
        exact ⟨_, .char hstarts hcut⟩

theorem Cut.unique {pieces' : List Piece} (h : Cut cs pieces) (h' : Cut cs pieces') :
    pieces = pieces' := by
  induction h generalizing pieces' with
  | nil => cases h'; rfl
  | @reference inside rest pieces hinside hcut ih =>
    generalize hcs : '$' :: '\x7b' :: (inside ++ '\x7d' :: rest) = cs at h'
    cases h' with
    | nil => cases hcs
    | @reference inside' rest' _ hinside' hcut' =>
      have hsame : splitBrace (inside ++ '\x7d' :: rest) = some (inside', rest') :=
        splitBrace_eq_some_iff.2 ⟨hinside', by simpa using hcs⟩
      rw [splitBrace_eq_some_iff.2 ⟨hinside, rfl⟩] at hsame
      cases hsame
      rw [ih hcut']
    | char hnot => exact absurd ⟨inside, rest, hinside, hcs.symm⟩ hnot
  | @char c cs pieces hnot hcut ih =>
    cases h' with
    | reference hinside => exact absurd ⟨_, _, hinside, rfl⟩ hnot
    | char _ hcut' => rw [ih hcut']

/-! ## What is documented -/

/-- What stands in the text for a piece: the character, the value of the variable, or the default
    of a variable that is not set. -/
inductive Stands (environment : Environment) : Piece → List Char → Prop
  | char {c : Char} : Stands environment (.char c) [c]
  | value {inside name : List Char} {fallback : Option (List Char)} {value : String} :
      Reads inside name fallback → environment.get? (String.ofList name) = some value →
      Stands environment (.reference inside) value.toList
  | default {inside name fallback : List Char} : Reads inside name (some fallback) →
      environment.get? (String.ofList name) = none → Stands environment (.reference inside) fallback

/-- The reference is to a variable that is not set, and has no default. -/
def Unset (environment : Environment) (inside name : List Char) : Prop :=
  Reads inside name none ∧ environment.get? (String.ofList name) = none

/-- A text with every reference between braces replaced, and nothing else changed, or the first
    name that is missing. -/
inductive Documented (environment : Environment) (text : String) : Except String String → Prop
  | replaced {pieces : List Piece} {values : List (List Char)} : Cut text.toList pieces →
      List.Forall₂ (Stands environment) pieces values →
      Documented environment text (.ok (String.ofList values.flatten))
  | missing {front back : List Piece} {values : List (List Char)} {inside name : List Char} :
      Cut text.toList (front ++ .reference inside :: back) →
      List.Forall₂ (Stands environment) front values → Unset environment inside name →
      Documented environment text (.error (String.ofList name))

theorem lookUp_eq (environment : Environment) (name : List Char) (fallback : Option (List Char)) :
    lookUp environment name fallback =
      match environment.get? (String.ofList name), fallback with
      | some value, _ => .ok value.toList
      | none, some fallback => .ok fallback
      | none, none => .error (String.ofList name) := rfl

theorem lookUp_reference_eq_ok_iff :
    lookUp environment (reference inside).1 (reference inside).2 = .ok value ↔
      Stands environment (.reference inside) value := by
  obtain ⟨name, fallback, hreads⟩ := exists_reads inside
  rw [reference_of_reads hreads, lookUp_eq]
  constructor
  · intro h
    cases hget : environment.get? (String.ofList name) with
    | some text =>
      simp only [hget] at h
      cases h
      exact .value hreads hget
    | none =>
      cases fallback with
      | none => simp only [hget] at h; cases h
      | some fallback =>
        simp only [hget] at h
        cases h
        exact .default hreads hget
  · rintro (_ | ⟨hreads', hget⟩ | ⟨hreads', hget⟩) <;>
      cases (reference_of_reads hreads).symm.trans (reference_of_reads hreads') <;>
      simp only [hget]

theorem lookUp_reference_eq_error_iff {missing : String} :
    lookUp environment (reference inside).1 (reference inside).2 = .error missing ↔
      ∃ name, Unset environment inside name ∧ missing = String.ofList name := by
  obtain ⟨name, fallback, hreads⟩ := exists_reads inside
  rw [reference_of_reads hreads, lookUp_eq]
  constructor
  · intro h
    cases hget : environment.get? (String.ofList name) with
    | some text => simp only [hget] at h; cases h
    | none =>
      cases fallback with
      | none =>
        simp only [hget] at h
        cases h
        exact ⟨name, ⟨hreads, hget⟩, rfl⟩
      | some fallback => simp only [hget] at h; cases h
  · rintro ⟨name', ⟨hreads', hget⟩, rfl⟩
    cases (reference_of_reads hreads).symm.trans (reference_of_reads hreads')
    simp only [hget]

/-- The pieces with every reference replaced. -/
def replaceAll (environment : Environment) : List Piece → Except String (List Char)
  | [] => .ok []
  | .char c :: pieces => (replaceAll environment pieces).map (c :: ·)
  | .reference inside :: pieces =>
    (lookUp environment (reference inside).1 (reference inside).2).bind fun value =>
      (replaceAll environment pieces).map (value ++ ·)

theorem replaceAll_eq_ok_iff : replaceAll environment pieces = .ok cs ↔
    ∃ values, List.Forall₂ (Stands environment) pieces values ∧ cs = values.flatten := by
  induction pieces generalizing cs with
  | nil => simp [replaceAll, @eq_comm _ []]
  | cons piece pieces ih =>
    have hhead {value : List Char} (hvalue : Stands environment piece value) :
        (∃ rest, replaceAll environment pieces = .ok rest ∧ value ++ rest = cs) ↔
          ∃ values, List.Forall₂ (Stands environment) pieces values ∧
            cs = (value :: values).flatten := by
      constructor
      · rintro ⟨rest, hrest, rfl⟩
        obtain ⟨values, hvalues, rfl⟩ := ih.1 hrest
        exact ⟨values, hvalues, rfl⟩
      · rintro ⟨values, hvalues, rfl⟩
        exact ⟨_, ih.2 ⟨values, hvalues, rfl⟩, rfl⟩
    cases piece with
    | char c =>
      rw [replaceAll, map_eq_ok_iff]
      refine (hhead .char).trans ⟨fun ⟨values, hvalues, h⟩ => ⟨_, .cons .char hvalues, h⟩, ?_⟩
      rintro ⟨_, _ | ⟨⟨⟩, hvalues⟩, h⟩
      exact ⟨_, hvalues, h⟩
    | reference inside =>
      rw [replaceAll, bind_eq_ok_iff]
      simp only [map_eq_ok_iff, lookUp_reference_eq_ok_iff]
      constructor
      · rintro ⟨value, hvalue, h⟩
        obtain ⟨values, hvalues, h⟩ := (hhead hvalue).1 h
        exact ⟨value :: values, .cons hvalue hvalues, h⟩
      · rintro ⟨_, _ | ⟨hvalue, hvalues⟩, h⟩
        exact ⟨_, hvalue, (hhead hvalue).2 ⟨_, hvalues, h⟩⟩

theorem replaceAll_eq_error_iff {missing : String} :
    replaceAll environment pieces = .error missing ↔ ∃ front inside back values name,
      pieces = front ++ .reference inside :: back ∧
      List.Forall₂ (Stands environment) front values ∧ Unset environment inside name ∧
      missing = String.ofList name := by
  induction pieces with
  | nil => simp [replaceAll]
  | cons piece pieces ih =>
    constructor
    · intro h
      have hbehind {value : List Char} (hvalue : Stands environment piece value)
          (h : replaceAll environment pieces = .error missing) :
          ∃ front inside back values name, piece :: pieces = front ++ .reference inside :: back ∧
            List.Forall₂ (Stands environment) front values ∧ Unset environment inside name ∧
            missing = String.ofList name := by
        obtain ⟨front, inside, back, values, name, rfl, hvalues, hunset⟩ := ih.1 h
        exact ⟨piece :: front, inside, back, value :: values, name, rfl, .cons hvalue hvalues,
          hunset⟩
      cases piece with
      | char c =>
        rw [replaceAll, map_eq_error_iff] at h
        exact hbehind .char h
      | reference inside =>
        rw [replaceAll, bind_eq_error_iff] at h
        rcases h with h | ⟨value, hvalue, h⟩
        · obtain ⟨name, hunset, rfl⟩ := lookUp_reference_eq_error_iff.1 h
          exact ⟨[], inside, pieces, [], name, rfl, .nil, hunset, rfl⟩
        · rw [map_eq_error_iff] at h
          exact hbehind (lookUp_reference_eq_ok_iff.1 hvalue) h
    · rintro ⟨front, inside, back, values, name, heq, hvalues, hunset, rfl⟩
      cases hvalues with
      | nil =>
        cases heq
        rw [replaceAll, bind_eq_error_iff]
        exact .inl (lookUp_reference_eq_error_iff.2 ⟨name, hunset, rfl⟩)
      | @cons first value front values hvalue hvalues =>
        cases heq
        have hmissing := ih.2 ⟨front, inside, back, values, name, rfl, hvalues, hunset, rfl⟩
        cases piece with
        | char c => rw [replaceAll, map_eq_error_iff]; exact hmissing
        | reference inside' =>
          rw [replaceAll, bind_eq_error_iff]
          exact .inr ⟨value, lookUp_reference_eq_ok_iff.2 hvalue, by rw [hmissing]; rfl⟩

/-- **What is documented** is determined by the pieces of the text. -/
theorem documented_iff (h : Cut text.toList pieces) {result : Except String String} :
    Documented environment text result ↔
      (replaceAll environment pieces).map String.ofList = result := by
  constructor
  · rintro (⟨hcut, hvalues⟩ | ⟨hcut, hvalues, hunset⟩) <;> cases h.unique hcut
    · rw [replaceAll_eq_ok_iff.2 ⟨_, hvalues, rfl⟩]
      rfl
    · rw [replaceAll_eq_error_iff.2 ⟨_, _, _, _, _, rfl, hvalues, hunset, rfl⟩]
      rfl
  · rintro rfl
    cases hall : replaceAll environment pieces with
    | ok cs =>
      obtain ⟨values, hvalues, rfl⟩ := replaceAll_eq_ok_iff.1 hall
      exact .replaced h hvalues
    | error missing =>
      obtain ⟨front, inside, back, values, name, rfl, hvalues, hunset, rfl⟩ :=
        replaceAll_eq_error_iff.1 hall
      exact .missing h hvalues hunset

/-! ## What is replaced -/

theorem expandAll_reference (h : '\x7d' ∉ inside) (rest : List Char) :
    expandAll environment ('$' :: '\x7b' :: (inside ++ '\x7d' :: rest)) =
      (lookUp environment (reference inside).1 (reference inside).2).bind fun value =>
        (expandAll environment rest).map (value ++ ·) := by
  have hsplit : splitBrace (inside ++ '\x7d' :: rest) = some (inside, rest) :=
    splitBrace_eq_some_iff.2 ⟨h, rfl⟩
  rw [expandAll]
  split
  · rename_i hnone
    rw [hsplit] at hnone
    cases hnone
  · rename_i hsome
    rw [hsplit] at hsome
    cases hsome
    cases lookUp environment (reference inside).1 (reference inside).2 <;> rfl

theorem expandAll_unclosed (h : '\x7d' ∉ cs) : expandAll environment ('$' :: '\x7b' :: cs) =
    (expandAll environment cs).map fun rest => '$' :: '\x7b' :: rest := by
  rw [expandAll]
  split
  · rfl
  · rename_i hsome
    rw [splitBrace_eq_none_iff.2 h] at hsome
    cases hsome

theorem expandAll_char {c : Char} (h : c ≠ '$') (cs : List Char) :
    expandAll environment (c :: cs) = (expandAll environment cs).map (c :: ·) := by
  rw [expandAll] <;> simp [h]

theorem expandAll_doubled (cs : List Char) :
    expandAll environment ('$' :: '$' :: cs) = (expandAll environment cs).map ('$' :: ·) := by
  rw [expandAll]

/-- A dollar sign is kept in front of a character that makes nothing of it. -/
theorem expandAll_dollar (h : ¬ StartsReference ('$' :: cs))
    (hnext : ∀ c ∈ cs.head?, c ≠ '$' ∧ isNameChar c = false) :
    expandAll environment ('$' :: cs) = (expandAll environment cs).map ('$' :: ·) := by
  cases cs with
  | nil => simp [expandAll]
  | cons c cs =>
    obtain ⟨hdollar, hname⟩ := hnext c rfl
    by_cases hbrace : c = '\x7b'
    · subst hbrace
      have hopen : '\x7d' ∉ cs := fun hmem => by
        obtain ⟨inside, rest, rfl, hinside⟩ := List.eq_append_cons_of_mem hmem
        exact h ⟨inside, rest, hinside, rfl⟩
      rw [expandAll_unclosed hopen, expandAll_char (by decide), map_map]
      rfl
    · rw [expandAll]
      · simp [hname]
      · simp [hbrace]
      · simp [hdollar]

/-- A name behind a dollar sign is looked up like a reference without a default. -/
theorem expandAll_name {c : Char} (h : isNameChar c = true) (cs : List Char) :
    expandAll environment ('$' :: c :: cs) =
      (lookUp environment ((c :: cs).takeWhile isNameChar) none).bind fun value =>
        (expandAll environment ((c :: cs).dropWhile isNameChar)).map (value ++ ·) := by
  have hbrace : c ≠ '\x7b' := by rintro rfl; exact absurd h (by decide)
  have hdollar : c ≠ '$' := by rintro rfl; exact absurd h (by decide)
  rw [expandAll]
  · rw [List.takeWhile_cons_of_pos h, if_neg (by simp)]
    cases lookUp environment (c :: cs.takeWhile isNameChar) none <;> rfl
  · simp [hbrace]
  · simp [hdollar]

/-! ## Plain texts -/

/-- A dollar sign of its own stands in front of a character that makes nothing of it. -/
def Quiet (piece next : Piece) : Prop :=
  piece = .char '$' → ∃ c, next = .char c ∧ c ≠ '$' ∧ isNameChar c = false

theorem quiet_of_ne {piece : Piece} (h : piece ≠ .char '$') (next : Piece) : Quiet piece next :=
  fun hpiece => absurd hpiece h

/-- The next character makes nothing of a dollar sign, said of the text or of its pieces. -/
theorem quiet_head_iff (h : Cut cs pieces) : (∀ piece ∈ pieces.head?, Quiet (.char '$') piece) ↔
    ¬ StartsReference cs ∧ ∀ c ∈ cs.head?, c ≠ '$' ∧ isNameChar c = false := by
  cases h with
  | nil => simp [StartsReference]
  | reference hinside =>
    simp only [List.head?_cons, Option.mem_some_iff, forall_eq']
    refine iff_of_false (fun h => ?_) fun h => h.1 ⟨_, _, hinside, rfl⟩
    obtain ⟨c, hc, -⟩ := h rfl
    cases hc
  | @char c cs pieces hnot hcut =>
    simp only [List.head?_cons, Option.mem_some_iff, forall_eq']
    constructor
    · intro h
      obtain ⟨d, hd, hnext⟩ := h rfl
      cases hd
      exact ⟨hnot, hnext⟩
    · exact fun h _ => ⟨c, rfl, h.2⟩

/-- **A quiet text is replaced piece by piece.** -/
theorem expandAll_of_quiet (h : Cut cs pieces) (hquiet : pieces.IsChain Quiet) :
    expandAll environment cs = replaceAll environment pieces := by
  induction h with
  | nil => rw [expandAll, replaceAll]
  | reference hinside _ ih =>
    rw [expandAll_reference hinside, replaceAll, ih (List.isChain_cons.1 hquiet).2]
  | @char c cs pieces hnot hcut ih =>
    obtain ⟨hhead, hquiet⟩ := List.isChain_cons.1 hquiet
    rw [replaceAll, ← ih hquiet]
    by_cases hc : c = '$'
    · subst hc
      exact expandAll_dollar hnot ((quiet_head_iff hcut).1 hhead).2
    · exact expandAll_char hc cs

/-! ## All other texts -/

/-- Every name that could stand in the text is set, to the same value. -/
def Sets (environment : Environment) (cs : List Char) : Prop :=
  ∀ name : List Char, name.Sublist cs → environment.get? (String.ofList name) = some "x"

theorem Sets.mono (h : Sets environment cs) (hsub : rest.Sublist cs) : Sets environment rest :=
  fun name hname => h name (hname.trans hsub)

theorem exists_sets (cs : List Char) : ∃ environment, Sets environment cs := by
  refine ⟨cs.sublists.map fun name => (String.ofList name, "x"), fun name hname => ?_⟩
  rw [Environment.get?, Option.map_eq_some_iff]
  cases hfind : (cs.sublists.map fun name => (String.ofList name, "x")).find?
      (·.1 == String.ofList name) with
  | none =>
    have hmem : (String.ofList name, "x") ∈ cs.sublists.map fun name => (String.ofList name, "x") :=
      List.mem_map_of_mem (List.mem_sublists.2 hname)
    exact absurd (List.find?_eq_none.1 hfind _ hmem) (by simp)
  | some entry =>
    obtain ⟨-, -, rfl⟩ := List.mem_map.1 (List.mem_of_find?_eq_some hfind)
    exact ⟨_, rfl, rfl⟩

theorem Sets.lookUp (h : Sets environment cs) (hname : name.Sublist cs) :
    lookUp environment name fallback = .ok ['x'] := by
  rw [lookUp_eq]
  simp only [h name hname]
  rfl

theorem Reads.sublist (h : Reads inside name fallback) : name.Sublist inside := by
  cases h with
  | default => rw [List.append_assoc]; exact List.sublist_append_left _ _
  | alone => exact List.Sublist.refl _

theorem rest_sublist (inside rest : List Char) :
    rest.Sublist ('$' :: '\x7b' :: (inside ++ '\x7d' :: rest)) :=
  (((List.sublist_cons_self _ _).trans (List.sublist_append_right _ _)).cons _).cons _

theorem Sets.lookUp_reference
    (h : Sets environment ('$' :: '\x7b' :: (inside ++ '\x7d' :: rest))) :
    Settings.lookUp environment (reference inside).1 (reference inside).2 = .ok ['x'] := by
  obtain ⟨name, fallback, hreads⟩ := exists_reads inside
  rw [reference_of_reads hreads]
  exact h.lookUp (hreads.sublist.trans
    (((List.sublist_append_left _ _).cons _).cons _))

theorem replaceAll_of_sets (h : Cut cs pieces) (hsets : Sets environment cs) :
    ∃ documented, replaceAll environment pieces = .ok documented := by
  induction h with
  | nil => exact ⟨[], rfl⟩
  | reference hinside _ ih =>
    obtain ⟨documented, hall⟩ := ih (hsets.mono (rest_sublist _ _))
    rw [replaceAll, hsets.lookUp_reference, hall]
    exact ⟨_, rfl⟩
  | char _ _ ih =>
    obtain ⟨documented, hall⟩ := ih (hsets.mono (List.sublist_cons_self _ _))
    rw [replaceAll, hall]
    exact ⟨_, rfl⟩

theorem replicate_append_dollar (k : ℕ) (out : List Char) :
    List.replicate k '$' ++ '$' :: out = '$' :: (List.replicate k '$' ++ out) := by
  rw [List.append_cons, ← List.replicate_succ', List.replicate_succ, List.cons_append]

/-- Among dollar signs and what is documented, another character is the first of the latter. -/
theorem eq_of_cons_eq_replicate {c : Char} {k : ℕ} {out documented : List Char} (hc : c ≠ '$')
    (h : c :: out = List.replicate k '$' ++ documented) : k = 0 ∧ documented = c :: out := by
  cases k with
  | zero => exact ⟨rfl, h.symm⟩
  | succ k => cases h; exact absurd rfl hc

/-- A dollar sign that is kept in front of a character that counts with it is one of a pair, and
    the other one of the pair is missing. -/
theorem pair_of_expandAll (h : Cut cs pieces) (hsets : Sets environment cs)
    {documented : List Char} (hall : replaceAll environment pieces = .ok documented) {k : ℕ}
    (heq : expandAll environment ('$' :: cs) = .ok ('$' :: (List.replicate k '$' ++ documented)))
    (hnext : ¬ ∀ c ∈ cs.head?, c ≠ '$' ∧ isNameChar c = false) :
    ∃ rest pieces documented, cs = '$' :: rest ∧ Cut rest pieces ∧
      replaceAll environment pieces = .ok documented ∧
      expandAll environment rest = .ok (List.replicate (k + 1) '$' ++ documented) := by
  cases cs with
  | nil => exact absurd (fun _ => nofun) hnext
  | cons c cs =>
    by_cases hc : c = '$'
    · subst hc
      rw [expandAll_doubled] at heq
      obtain ⟨out, hout, heq⟩ := map_eq_ok_iff.1 heq
      cases heq
      cases h with
      | reference hinside =>
        -- the second one of the pair would have opened a reference
        rw [replaceAll, hsets.lookUp_reference] at hall
        obtain ⟨value, -, rfl⟩ := map_eq_ok_iff.1 hall
        rw [expandAll_char (by decide)] at hout
        obtain ⟨out, -, hout⟩ := map_eq_ok_iff.1 hout
        obtain ⟨-, hsame⟩ := eq_of_cons_eq_replicate (by decide) hout
        cases hsame
      | char _ hcut =>
        rw [replaceAll] at hall
        obtain ⟨documented, hrest, rfl⟩ := map_eq_ok_iff.1 hall
        rw [replicate_append_dollar, ← List.cons_append, ← List.replicate_succ] at hout
        exact ⟨cs, _, documented, rfl, hcut, hrest, hout⟩
    · have hname : isNameChar c = true := by
        by_contra hname
        refine hnext fun d hd => ?_
        cases hd
        exact ⟨hc, by simpa using hname⟩
      rw [expandAll_name hname, hsets.lookUp (List.takeWhile_sublist _)] at heq
      obtain ⟨out, -, heq⟩ := map_eq_ok_iff.1 heq
      cases heq

/-- **A text with all its names set is replaced as documented only if it is quiet.**  The dollar
    signs in front are those that were read in pairs and stand for one each. -/
theorem quiet_of_expandAll (h : Cut cs pieces) (hsets : Sets environment cs)
    {documented : List Char} (hall : replaceAll environment pieces = .ok documented) (k : ℕ)
    (heq : expandAll environment cs = .ok (List.replicate k '$' ++ documented)) :
    k = 0 ∧ pieces.IsChain Quiet := by
  induction hlength : cs.length using Nat.strong_induction_on
    generalizing cs pieces documented k with
  | _ length ih =>
    cases h with
    | nil =>
      rw [expandAll] at heq
      cases hall
      cases k with
      | zero => exact ⟨rfl, .nil⟩
      | succ => cases heq
    | @reference inside rest pieces hinside hcut =>
      rw [expandAll_reference hinside, hsets.lookUp_reference] at heq
      rw [replaceAll, hsets.lookUp_reference] at hall
      obtain ⟨out, hout, heq⟩ := map_eq_ok_iff.1 heq
      obtain ⟨documented, hpieces, rfl⟩ := map_eq_ok_iff.1 hall
      obtain ⟨rfl, hsame⟩ := eq_of_cons_eq_replicate (by decide) heq
      cases hsame
      have hchain := ih rest.length (by simp at hlength; omega) hcut
        (hsets.mono (rest_sublist inside rest)) hpieces 0 hout rfl
      exact ⟨rfl, List.isChain_cons.2 ⟨fun next _ => quiet_of_ne (by simp) next, hchain.2⟩⟩
    | @char c cs pieces hnot hcut =>
      have hmono := hsets.mono (List.sublist_cons_self c cs)
      rw [replaceAll] at hall
      obtain ⟨documented, hpieces, rfl⟩ := map_eq_ok_iff.1 hall
      by_cases hc : c = '$'
      · subst hc
        rw [replicate_append_dollar] at heq
        by_cases hnext : ∀ c ∈ cs.head?, c ≠ '$' ∧ isNameChar c = false
        · rw [expandAll_dollar hnot hnext] at heq
          obtain ⟨out, hout, heq⟩ := map_eq_ok_iff.1 heq
          cases heq
          obtain ⟨rfl, hchain⟩ :=
            ih cs.length (by simp at hlength; omega) hcut hmono hpieces k hout rfl
          refine ⟨rfl, List.isChain_cons.2 ⟨(quiet_head_iff hcut).2 ⟨?_, hnext⟩, hchain⟩⟩
          rintro ⟨inside, rest, -, rfl⟩
          exact (hnext _ rfl).1 rfl
        · obtain ⟨rest, pieces, documented, rfl, hrest, hall, hout⟩ :=
            pair_of_expandAll hcut hmono hpieces heq hnext
          have hnone := ih rest.length (by simp at hlength; omega) hrest
            (hmono.mono (List.sublist_cons_self _ _)) hall (k + 1) hout rfl
          exact absurd hnone.1 (Nat.succ_ne_zero k)
      · rw [expandAll_char hc] at heq
        obtain ⟨out, hout, heq⟩ := map_eq_ok_iff.1 heq
        obtain ⟨rfl, hsame⟩ := eq_of_cons_eq_replicate hc heq
        cases hsame
        have hchain := ih cs.length (by simp at hlength; omega) hcut hmono hpieces 0 hout rfl
        refine ⟨rfl, List.isChain_cons.2 ⟨fun next _ => quiet_of_ne ?_ next, hchain.2⟩⟩
        simpa using hc

/-! ## Texts -/

/-- What opens a reference between braces. -/
def opening : List Char := ['$', '\x7b']

theorem mentions_iff : mentions cs = true ↔ opening <:+: cs := by
  fun_induction mentions cs with
  | case1 cs => exact iff_of_true rfl ⟨[], cs, rfl⟩
  | case2 => simp [opening]
  | case3 c cs hne ih =>
    rw [ih, List.infix_cons_iff, or_iff_right]
    rintro ⟨rest, heq⟩
    cases heq
    exact hne _ rfl rfl

/-- Without an opening there is no reference between braces. -/
theorem replaceAll_of_not_mentioned (h : Cut cs pieces) (hnot : ¬ opening <:+: cs) :
    replaceAll environment pieces = .ok cs := by
  induction h with
  | nil => rfl
  | reference => exact absurd ⟨[], _, rfl⟩ hnot
  | char _ _ ih =>
    rw [replaceAll, ih fun h => hnot (List.infix_cons h)]
    rfl

/-- No dollar sign counts, or none does but for the references between braces. -/
def IsPlain (text : String) : Prop :=
  ¬ opening <:+: text.toList ∨ ∀ pieces, Cut text.toList pieces → pieces.IsChain Quiet

theorem expand_of_isPlain (h : IsPlain text) (hcut : Cut text.toList pieces) :
    expand environment text = (replaceAll environment pieces).map String.ofList := by
  rw [expand]
  split
  · rename_i hmentions
    rcases h with h | h
    · exact absurd (mentions_iff.1 hmentions) h
    · rw [expandAll_of_quiet hcut (h pieces hcut)]
  · rename_i hmentions
    rw [replaceAll_of_not_mentioned hcut (mt mentions_iff.2 hmentions)]
    exact congrArg _ (String.ofList_toList).symm

/-- **Plain texts are replaced as documented, and no other text is** in every environment. -/
theorem isPlain_iff : IsPlain text ↔ ∀ environment result,
    expand environment text = result ↔ Documented environment text result := by
  obtain ⟨pieces, hcut⟩ := exists_cut text.toList
  constructor
  · intro h environment result
    rw [documented_iff hcut, expand_of_isPlain h hcut]
  · intro h
    by_cases hmentions : mentions text.toList = true
    · obtain ⟨environment, hsets⟩ := exists_sets text.toList
      obtain ⟨documented, hall⟩ := replaceAll_of_sets hcut hsets
      have heq := (h environment _).2 ((documented_iff hcut).2 rfl)
      rw [expand, if_pos hmentions, hall] at heq
      obtain ⟨out, hout, hsame⟩ := map_eq_ok_iff.1 heq
      obtain rfl := String.ofList_injective hsame
      refine .inr fun pieces' hcut' => ?_
      rw [← hcut.unique hcut']
      exact (quiet_of_expandAll hcut hsets hall 0 hout).2
    · exact .inl (mt mentions_iff.2 hmentions)

theorem expandField_eq_ok_iff {field value : String} :
    expandField environment field text = .ok value ↔ expand environment text = .ok value := by
  rw [expandField]
  cases expand environment text <;> simp

theorem expandField_eq_error_iff {field : String} {error : Error} :
    expandField environment field text = .error error ↔
      ∃ name, expand environment text = .error name ∧ error = .unset field name := by
  rw [expandField]
  cases expand environment text <;> simp [eq_comm]

theorem exists_stands {values : List (List Char)} {piece : Piece}
    (h : List.Forall₂ (Stands environment) pieces values) (hmem : piece ∈ pieces) :
    ∃ value, Stands environment piece value := by
  induction h with
  | nil => cases hmem
  | cons hvalue _ ih =>
    rcases List.mem_cons.1 hmem with rfl | hmem
    · exact ⟨_, hvalue⟩
    · exact ih hmem

/-- A plain text fails if and only if one of its references is to a variable that is not set. -/
theorem expandField_fails_iff (h : IsPlain text) (hcut : Cut text.toList pieces)
    {field : String} : (∃ name, expandField environment field text = .error (.unset field name)) ↔
      ∃ inside name, Piece.reference inside ∈ pieces ∧ Unset environment inside name := by
  simp only [expandField_eq_error_iff, expand_of_isPlain h hcut, map_eq_error_iff]
  constructor
  · rintro ⟨-, missing, hmissing, -⟩
    obtain ⟨front, inside, back, -, name, rfl, -, hunset, -⟩ := replaceAll_eq_error_iff.1 hmissing
    exact ⟨inside, name, by simp, hunset⟩
  · rintro ⟨inside, name, hmem, hunset⟩
    cases hall : replaceAll environment pieces with
    | error missing => exact ⟨missing, missing, rfl, rfl⟩
    | ok documented =>
      obtain ⟨values, hvalues, -⟩ := replaceAll_eq_ok_iff.1 hall
      obtain ⟨value, hvalue⟩ := exists_stands hvalues hmem
      have hfound := lookUp_reference_eq_ok_iff.2 hvalue
      rw [lookUp_reference_eq_error_iff.2 ⟨name, hunset, rfl⟩] at hfound
      cases hfound

/-- **References to environment variables.**  A text is replaced as documented in every environment
    if and only if it is plain.  A plain text fails if and only if one of its references is to a
    variable that is not set and has no default, and the error has the field and the name. -/
theorem expand_documented_iff_isPlain (text : String) :
    (IsPlain text ↔ ∀ environment result,
      expand environment text = result ↔ Documented environment text result) ∧
    (IsPlain text → ∀ pieces, Cut text.toList pieces → ∀ environment field,
      (∃ name, expandField environment field text = .error (.unset field name)) ↔
        ∃ inside name, Piece.reference inside ∈ pieces ∧ Unset environment inside name) ∧
    ∀ environment field error, expandField environment field text = .error error ↔
      ∃ name, expand environment text = .error name ∧ error = .unset field name :=
  ⟨isPlain_iff, fun h _ hcut _ _ => expandField_fails_iff h hcut,
    fun _ _ _ => expandField_eq_error_iff⟩

/-- A reference in front of a dollar sign that stands for itself. -/
theorem expand_documented_price :
    ∃ pieces, IsPlain "$\x7bA\x7d$-" ∧ Cut "$\x7bA\x7d$-".toList pieces ∧
      expand [("A", "5")] "$\x7bA\x7d$-" = .ok "5$-" ∧
      (∃ inside name, Piece.reference inside ∈ pieces ∧ Unset [] inside name) := by
  have hdash : ¬ StartsReference ['$', '-'] := by rintro ⟨inside, rest, -, heq⟩; cases heq
  have hcut : Cut "$\x7bA\x7d$-".toList [.reference ['A'], .char '$', .char '-'] :=
    @Cut.reference ['A'] ['$', '-'] _ (by decide)
      (.char hdash (.char (by rintro ⟨_, _, -, heq⟩; cases heq) .nil))
  have hplain : IsPlain "$\x7bA\x7d$-" := by
    refine .inr fun pieces hpieces => ?_
    rw [← hcut.unique hpieces]
    exact .cons_cons (quiet_of_ne (by simp) _)
      (.cons_cons (fun _ => ⟨'-', rfl, by decide, by decide⟩) (.singleton _))
  have hvalue : Documented [("A", "5")] "$\x7bA\x7d$-" (.ok "5$-") :=
    (documented_iff hcut).2 (by decide +kernel)
  refine ⟨_, hplain, hcut, ((expand_documented_iff_isPlain _).1.1 hplain _ _).2 hvalue, ?_⟩
  have hfails := (expand_documented_iff_isPlain _).2.1 hplain _ hcut [] "build.output_dir"
  refine hfails.1 ⟨"A", ?_⟩
  decide +kernel

/-- Behind a reference a name without braces is replaced too, and so are two dollar signs. -/
theorem bare_name_is_replaced :
    expand [("A", "a")] "$A" = .ok "$A" ∧
    expand [("A", "a"), ("B", "b")] "$A/$\x7bB\x7d" = .ok "a/b" ∧
    Documented [("A", "a"), ("B", "b")] "$A/$\x7bB\x7d" (.ok "$A/b") ∧
    expand [("B", "b")] "$A/$\x7bB\x7d" = .error "A" ∧
    expand [("B", "b")] "$$/$\x7bB\x7d" = .ok "$/b" := by
  refine ⟨by decide +kernel, by decide +kernel, ?_, by decide +kernel, by decide +kernel⟩
  have hother {c : Char} {cs : List Char} (h : cs.head? ≠ some '\x7b') :
      ¬ StartsReference (c :: cs) := by
    rintro ⟨inside, rest, -, heq⟩
    cases heq
    exact h rfl
  have hcut : Cut ['$', 'A', '/', '$', '\x7b', 'B', '\x7d']
      [.char '$', .char 'A', .char '/', .reference ['B']] :=
    .char (hother (by decide)) (.char (hother (by decide)) (.char (hother (by decide))
      (@Cut.reference ['B'] [] _ (by decide) .nil)))
  have htext : "$A/$\x7bB\x7d".toList = ['$', 'A', '/', '$', '\x7b', 'B', '\x7d'] := by
    decide +kernel
  rw [← htext] at hcut
  exact (documented_iff hcut).2 (by decide +kernel)

end CourseSite.Settings
