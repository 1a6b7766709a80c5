/-
  White space in argument lists.

  * `Respaced`, `Relaid`: the same text with other white space outside its strings: some white space
    stands for any other, and at a mark and at both ends there may be some or none.
  * `Respaced.cons_cases`: what stands first in the other text; `Relaid.strip`: behind leading white
    space.
  * `Carries`: what stands for something stands for it in the other text.  `carries_denotes`: so do
    literals, and `carries_listed`: lists of them.
  * `listed_of_relaid`: hence the grammar gives both texts the same values.
-/
import CourseSite.Proofs.Directive.Reading

namespace CourseSite.Directive.Grammar

open Text (isBlank isLetterOrNumeral)
open Literal (isQuote isWordChar)

variable {c quote mark : Char} {cs before token inside raw raw' tail text x y : List Char}

/-! ## The same text with other white space -/

/-- The brackets, the comma and the colon. -/
def marks : List Char := ['(', ')', '[', ']', '\x7b', '\x7d', ',', ':']

/-- The character is a quote, and the string that it opens is closed. -/
def StartsString (c : Char) (cs : List Char) : Prop :=
  isQuote c = true ∧ ∃ inside text rest, Quoted c inside text ∧ cs = inside ++ c :: rest

/-- The same text with other white space outside its strings: some white space stands for any
    other, and before and behind a mark and at the end there may be some or none. -/
inductive Respaced : List Char → List Char → Prop
  | ending {blanks blanks' : List Char} : Blanks blanks → Blanks blanks' → Respaced blanks blanks'
  | char {c : Char} {cs cs' : List Char} : ¬ StartsString c cs → ¬ StartsString c cs' →
      Respaced cs cs' → Respaced (c :: cs) (c :: cs')
  | string {quote : Char} {inside text cs cs' : List Char} : isQuote quote = true →
      Quoted quote inside text → Respaced cs cs' →
      Respaced (quote :: (inside ++ quote :: cs)) (quote :: (inside ++ quote :: cs'))
  | blanks {blanks blanks' cs cs' : List Char} : Blanks blanks → Blanks blanks' → blanks ≠ [] →
      blanks' ≠ [] → Respaced cs cs' → Respaced (blanks ++ cs) (blanks' ++ cs')
  | mark {before before' behind behind' cs cs' : List Char} {mark : Char} : mark ∈ marks →
      Blanks before → Blanks before' → Blanks behind → Blanks behind' → Respaced cs cs' →
      Respaced (before ++ mark :: (behind ++ cs)) (before' ++ mark :: (behind' ++ cs'))

/-- The same text with other white space outside its strings, and at the start too. -/
inductive Relaid : List Char → List Char → Prop
  | mk {before before' cs cs' : List Char} : Blanks before → Blanks before' → Respaced cs cs' →
      Relaid (before ++ cs) (before' ++ cs')

theorem Respaced.refl (cs : List Char) : Respaced cs cs := by
  induction hlen : cs.length using Nat.strong_induction_on generalizing cs with
  | _ length ih =>
    cases cs with
    | nil => exact .ending blanks_nil blanks_nil
    | cons c cs =>
      by_cases h : StartsString c cs
      · obtain ⟨hquote, inside, text, rest, hinside, rfl⟩ := h
        simp only [List.length_append, List.length_cons] at hlen
        exact .string hquote hinside (ih rest.length (by omega) rest rfl)
      · exact .char h h (ih cs.length (by simp at hlen; omega) cs rfl)

theorem Respaced.symm (h : Respaced x y) : Respaced y x := by
  induction h with
  | ending h h' => exact .ending h' h
  | char h h' _ ih => exact .char h' h ih
  | string hquote hinside _ ih => exact .string hquote hinside ih
  | blanks h h' hne hne' _ ih => exact .blanks h' h hne' hne ih
  | mark hmark h₁ h₁' h₂ h₂' _ ih => exact .mark hmark h₁' h₁ h₂' h₂ ih

theorem Relaid.symm (h : Relaid x y) : Relaid y x := by
  obtain ⟨h, h', hcs⟩ := h
  exact .mk h' h hcs.symm

theorem Respaced.relaid (h : Respaced x y) : Relaid x y := .mk blanks_nil blanks_nil h

/-! ## Characters -/

/-- What holds of all marks can be checked for each of them. -/
theorem forall_mem_marks {p : Char → Bool} (h : marks.all p = true) (hmark : mark ∈ marks) :
    p mark = true :=
  List.all_eq_true.1 h mark hmark

theorem not_isBlank_of_mem_marks (h : mark ∈ marks) : isBlank mark = false := by
  simpa using @forall_mem_marks mark (fun c => !isBlank c) (by decide +kernel) h

theorem not_isQuote_of_mem_marks (h : mark ∈ marks) : ¬ isQuote mark = true := by
  simpa using @forall_mem_marks mark (fun c => !isQuote c) (by decide) h

theorem not_isBlank_of_isQuote (h : isQuote c = true) : isBlank c = false :=
  not_isBlank_of_startsValue (by simp [startsValue, h])

/-- The character is no white space, no quote and no mark. -/
structure IsSolid (c : Char) : Prop where
  not_isBlank : isBlank c = false
  not_isQuote : ¬ isQuote c = true
  not_mem_marks : c ∉ marks

theorem isSolid_of_isWordChar (h : isWordChar c = true) : IsSolid c where
  not_isBlank := by
    by_contra hb
    rw [isWordChar_of_isBlank (Bool.eq_true_of_not_eq_false hb)] at h
    cases h
  not_isQuote := by
    rw [isQuote_iff]
    rintro (rfl | rfl) <;> exact absurd h (by decide)
  not_mem_marks := by
    intro hm
    have := @forall_mem_marks c (fun c => !isWordChar c) (by decide) hm
    rw [h] at this
    cases this

theorem isSolid_of_isDigit (h : c.isDigit = true) : IsSolid c := by
  refine isSolid_of_isWordChar ?_
  have := Text.isDigit_iff.1 h
  rw [isWordChar, isLetterOrNumeral, Text.isNumeral, if_pos (by omega), h]
  simp

theorem isSolid_point : IsSolid '.' :=
  ⟨by decide +kernel, by decide, by decide⟩

theorem isSolid_of_isSign {sign : List Char} (h : IsSign sign) : ∀ c ∈ sign, IsSolid c := by
  have hplus : IsSolid '+' := ⟨by decide +kernel, by decide, by decide⟩
  have hminus : IsSolid '-' := ⟨by decide +kernel, by decide, by decide⟩
  rcases h with rfl | rfl | rfl
  · exact List.forall_mem_nil _
  · exact List.forall_mem_singleton.2 hplus
  · exact List.forall_mem_singleton.2 hminus

theorem Numeral.isSolid {v : Value} (h : Numeral token v) : ∀ c ∈ token, IsSolid c := by
  cases h with
  | integer hsign hdigits =>
    exact List.forall_mem_append.2 ⟨isSolid_of_isSign hsign,
      fun c hc => isSolid_of_isDigit (hdigits c hc)⟩
  | float hsign hwhole hfraction =>
    refine List.forall_mem_append.2 ⟨List.forall_mem_append.2 ⟨isSolid_of_isSign hsign, ?_⟩,
      List.forall_mem_cons.2 ⟨isSolid_point, ?_⟩⟩
    · exact fun c hc => isSolid_of_isDigit (hwhole c hc)
    · exact fun c hc => isSolid_of_isDigit (hfraction c hc)

/-! ## The start of the other text -/

/-- White space before something else starts with all white space that is there. -/
theorem exists_blanks_of_append_eq {blanks : List Char} (hblanks : Blanks blanks)
    (hcs : Starts (!isBlank ·) cs) (h : before ++ cs = blanks ++ x) :
    ∃ more, before = blanks ++ more ∧ x = more ++ cs := by
  rcases List.append_eq_append_iff.1 h with ⟨more, rfl, rfl⟩ | ⟨more, rfl, hx⟩
  · cases more with
    | nil => exact ⟨[], by simp, rfl⟩
    | cons b more =>
      have hb : isBlank b = true := hblanks b (by simp)
      have := hcs b rfl
      simp [hb] at this
  · exact ⟨more, rfl, hx⟩

/-- Behind leading white space, which may be any in the other text, the rest corresponds. -/
theorem Respaced.strip (h : Respaced (before ++ cs) y) (hbefore : Blanks before)
    (hcs : Starts (!isBlank ·) cs) :
    ∃ before' cs', y = before' ++ cs' ∧ Blanks before' ∧ Respaced cs cs' := by
  generalize hx : before ++ cs = x at h
  induction h generalizing before with
  | @ending blanks blanks' h h' =>
    obtain ⟨more, rfl, heq⟩ := exists_blanks_of_append_eq h hcs (by rw [hx, List.append_nil])
    obtain ⟨rfl, rfl⟩ := List.append_eq_nil_iff.1 heq.symm
    exact ⟨blanks', [], by simp, h', .refl []⟩
  | @char c xs ys h h' hxs ih =>
    cases before with
    | nil =>
      rw [List.nil_append] at hx
      exact ⟨[], c :: ys, rfl, blanks_nil, hx ▸ .char h h' hxs⟩
    | cons b before =>
      obtain ⟨rfl, rfl⟩ := List.cons_eq_cons.1 hx
      obtain ⟨hb, hbefore⟩ := List.forall_mem_cons.1 hbefore
      obtain ⟨before', cs', rfl, hbefore', hcs'⟩ := ih hbefore rfl
      exact ⟨b :: before', cs', rfl, List.forall_mem_cons.2 ⟨hb, hbefore'⟩, hcs'⟩
  | @string quote inside text xs ys hquote hinside hxs =>
    cases before with
    | nil =>
      rw [List.nil_append] at hx
      exact ⟨[], _, rfl, blanks_nil, hx ▸ .string hquote hinside hxs⟩
    | cons b before =>
      obtain ⟨rfl, -⟩ := List.cons_eq_cons.1 hx
      have hb := hbefore _ List.mem_cons_self
      rw [not_isBlank_of_isQuote hquote] at hb
      cases hb
  | @blanks blanks blanks' xs ys h h' hne hne' _ ih =>
    -- the run of white space need not be all of it
    obtain ⟨more, rfl, rfl⟩ := exists_blanks_of_append_eq h hcs hx
    obtain ⟨before', cs', rfl, hbefore', hcs'⟩ := ih (blanks_append.1 hbefore).2 rfl
    exact ⟨blanks' ++ before', cs', by simp, blanks_append.2 ⟨h', hbefore'⟩, hcs'⟩
  | @mark blanks blanks' behind behind' xs ys m hmark h₁ h₁' h₂ h₂' hxs =>
    -- the mark ends the white space, so that it stands first in the rest
    obtain ⟨more, rfl, heq⟩ := exists_blanks_of_append_eq h₁ hcs hx
    cases more with
    | nil =>
      rw [List.nil_append] at heq
      exact ⟨blanks', _, rfl, h₁', heq ▸ .mark hmark blanks_nil blanks_nil h₂ h₂' hxs⟩
    | cons b more =>
      obtain ⟨rfl, -⟩ := List.cons_eq_cons.1 heq
      have hb := hbefore m (by simp)
      rw [not_isBlank_of_mem_marks hmark] at hb
      cases hb

theorem Relaid.strip (h : Relaid (before ++ cs) y) (hbefore : Blanks before)
    (hcs : Starts (!isBlank ·) cs) :
    ∃ before' cs', y = before' ++ cs' ∧ Blanks before' ∧ Respaced cs cs' := by
  generalize hx : before ++ cs = x at h
  obtain @⟨blanks, blanks', xs, ys, h, h', hxs⟩ := h
  obtain ⟨more, rfl, rfl⟩ := exists_blanks_of_append_eq h hcs hx
  obtain ⟨before', cs', rfl, hbefore', hcs'⟩ := hxs.strip (blanks_append.1 hbefore).2 hcs
  exact ⟨blanks' ++ before', cs', by simp, blanks_append.2 ⟨h', hbefore'⟩, hcs'⟩

/-- **What stands first in the other text**: the same character, the same string, or the same mark
    behind white space. -/
theorem Respaced.cons_cases (h : Respaced (c :: cs) y) (hc : isBlank c = false) :
    (¬ StartsString c cs ∧ ∃ cs', y = c :: cs' ∧ Respaced cs cs') ∨
      (isQuote c = true ∧ ∃ inside text rest rest', Quoted c inside text ∧
        cs = inside ++ c :: rest ∧ y = c :: (inside ++ c :: rest') ∧ Respaced rest rest') ∨
      (c ∈ marks ∧ ∃ before' cs', y = before' ++ c :: cs' ∧ Blanks before' ∧ Relaid cs cs') := by
  have hfirst {blanks rest : List Char} (hblanks : Blanks blanks) (h : c :: cs = blanks ++ rest) :
      blanks = [] := by
    cases blanks with
    | nil => rfl
    | cons b blanks =>
      obtain ⟨rfl, -⟩ := List.cons_eq_cons.1 h
      rw [hblanks c List.mem_cons_self] at hc
      cases hc
  generalize hx : c :: cs = x at h
  cases h with
  | ending h =>
    obtain rfl := hfirst h (by rw [hx, List.append_nil])
    cases hx
  | char h _ hcs =>
    cases hx
    exact .inl ⟨h, _, rfl, hcs⟩
  | string hquote hinside hcs =>
    cases hx
    exact .inr (.inl ⟨hquote, _, _, _, _, hinside, rfl, rfl, hcs⟩)
  | blanks h _ hne => exact absurd (hfirst h hx) hne
  | mark hmark h₁ h₁' h₂ h₂' hcs =>
    obtain rfl := hfirst h₁ hx
    cases hx
    exact .inr (.inr ⟨hmark, _, _, rfl, h₁', .mk h₂ h₂' hcs⟩)

/-- At the end of the text there is white space in the other text. -/
theorem Respaced.blanks_of_nil (h : Respaced [] y) : Blanks y := by
  generalize hx : [] = x at h
  cases h with
  | ending _ h => exact h
  | char | string => cases hx
  | blanks _ _ hne => exact absurd (List.append_eq_nil_iff.1 hx.symm).1 hne
  | mark => simp at hx

/-- A mark stands in the other text too, behind white space. -/
theorem Respaced.cons_mark (h : Respaced (mark :: cs) y) (hmark : mark ∈ marks) :
    ∃ before' cs', y = before' ++ mark :: cs' ∧ Blanks before' ∧ Relaid cs cs' := by
  rcases h.cons_cases (not_isBlank_of_mem_marks hmark) with
    ⟨-, cs', rfl, hcs⟩ | ⟨h, -⟩ | ⟨-, before', cs', rfl, hbefore', hcs⟩
  · exact ⟨[], cs', rfl, blanks_nil, hcs.relaid⟩
  · exact absurd h (not_isQuote_of_mem_marks hmark)
  · exact ⟨before', cs', rfl, hbefore', hcs⟩

/-- What is neither white space nor a quote nor a mark stands in the other text as it is. -/
theorem Respaced.append_solid (h : Respaced (token ++ tail) y) (htoken : ∀ c ∈ token, IsSolid c) :
    ∃ tail', y = token ++ tail' ∧ Respaced tail tail' := by
  induction token generalizing y with
  | nil => exact ⟨y, rfl, h⟩
  | cons c token ih =>
    obtain ⟨hc, htoken⟩ := List.forall_mem_cons.1 htoken
    rcases h.cons_cases hc.not_isBlank with ⟨-, cs', rfl, hcs⟩ | ⟨hquote, -⟩ | ⟨hmark, -⟩
    · obtain ⟨tail', rfl, htail⟩ := ih hcs htoken
      exact ⟨tail', rfl, htail⟩
    · exact absurd hquote hc.not_isQuote
    · exact absurd hmark hc.not_mem_marks

/-- A string ends at its first closing quote. -/
theorem Quoted.eq_of_append_eq {inside' text' rest rest' : List Char} (hquote : isQuote quote = true)
    (h : Quoted quote inside text) (h' : Quoted quote inside' text')
    (heq : inside ++ quote :: rest = inside' ++ quote :: rest') :
    inside = inside' ∧ rest = rest' := by
  obtain ⟨line, hread⟩ := stringTail_of_quoted hquote h 0 0 rest
  obtain ⟨line', hread'⟩ := stringTail_of_quoted hquote h' 0 0 rest'
  rw [heq, hread'] at hread
  simp only [Except.ok.injEq, Prod.mk.injEq] at hread
  obtain ⟨-, -, rfl⟩ := hread
  exact ⟨List.append_cancel_right heq, rfl⟩

/-- A string stands in the other text as it is. -/
theorem Respaced.cons_string (h : Respaced (quote :: (inside ++ quote :: tail)) y)
    (hquote : isQuote quote = true) (hinside : Quoted quote inside text) :
    ∃ tail', y = quote :: (inside ++ quote :: tail') ∧ Respaced tail tail' := by
  rcases h.cons_cases (not_isBlank_of_isQuote hquote) with
    ⟨hnone, -⟩ | ⟨-, inside', text', rest, rest', hinside', heq, rfl, hrest⟩ | ⟨hm, -⟩
  · exact absurd ⟨hquote, inside, text, tail, hinside, rfl⟩ hnone
  · obtain ⟨rfl, rfl⟩ := hinside.eq_of_append_eq hquote hinside' heq
    exact ⟨rest', rfl, hrest⟩
  · exact absurd hquote (not_isQuote_of_mem_marks hm)

/-! ## What stands in the other text -/

/-- What stands for something, with white space before it, stands for it in the other text, and what
    follows corresponds. -/
def Carries {α : Type} (Entry : List Char → α → Prop) (entry : List Char) (a : α) : Prop :=
  ∀ ⦃before tail y : List Char⦄, Blanks before → Relaid (before ++ (entry ++ tail)) y →
    ∃ before' entry' tail', y = before' ++ (entry' ++ tail') ∧ Blanks before' ∧ Entry entry' a ∧
      Relaid tail tail'

section
variable {α : Type} {Entry : List Char → α → Prop} {a : α}

theorem carries_solid (h : Entry token a) (hne : token ≠ []) (htoken : ∀ c ∈ token, IsSolid c) :
    Carries Entry token a := by
  intro before tail y hbefore hy
  obtain ⟨c, cs, rfl⟩ := List.exists_cons_of_ne_nil hne
  have hstart : Starts (!isBlank ·) (c :: cs ++ tail) :=
    starts_cons (by rw [(htoken c List.mem_cons_self).not_isBlank]; rfl)
  obtain ⟨before', y', rfl, hbefore', hy⟩ := hy.strip hbefore hstart
  obtain ⟨tail', rfl, htail⟩ := hy.append_solid htoken
  exact ⟨before', _, tail', rfl, hbefore', h, htail.relaid⟩

theorem carries_string (h : Entry (quote :: (inside ++ [quote])) a) (hquote : isQuote quote = true)
    (hinside : Quoted quote inside text) : Carries Entry (quote :: (inside ++ [quote])) a := by
  intro before tail y hbefore hy
  rw [List.cons_append, List.append_assoc, List.singleton_append] at hy
  obtain ⟨before', y', rfl, hbefore', hy⟩ :=
    hy.strip hbefore (starts_cons (by rw [not_isBlank_of_isQuote hquote]; rfl))
  obtain ⟨tail', rfl, htail⟩ := hy.cons_string hquote hinside
  exact ⟨before', _, tail', by simp, hbefore', h, htail.relaid⟩

/-- Brackets are carried with what stands between them. -/
theorem carries_bracket {opening closing : Char} (hopening : opening ∈ marks)
    (hinside : ∀ {tail y}, Relaid (inside ++ closing :: tail) y → ∃ inside' tail',
      y = inside' ++ closing :: tail' ∧ Entry (opening :: (inside' ++ [closing])) a ∧
        Relaid tail tail') :
    Carries Entry (opening :: (inside ++ [closing])) a := by
  intro before tail y hbefore hy
  rw [List.cons_append, List.append_assoc, List.singleton_append] at hy
  obtain ⟨before', y', rfl, hbefore', hy⟩ :=
    hy.strip hbefore (starts_cons (by rw [not_isBlank_of_mem_marks hopening]; rfl))
  obtain ⟨more, y'', rfl, hmore, hy⟩ := hy.cons_mark hopening
  obtain ⟨inside', tail', rfl, hentry, htail⟩ := hinside hy
  exact ⟨before' ++ more, _, tail', by simp, blanks_append.2 ⟨hbefore', hmore⟩, hentry, htail⟩

/-! ## Lists -/

variable {as : List α} {close : Option Char} {rest : List Char}

/-- White space before a mark, or at the end of the text, is white space in the other text. -/
theorem Relaid.behind (h : Relaid (before ++ (close.toList ++ rest)) y) (hbefore : Blanks before)
    (hclose : ∀ mark ∈ close, mark ∈ marks) (hrest : close = none → rest = []) :
    ∃ before' rest', y = before' ++ (close.toList ++ rest') ∧ Blanks before' ∧ Relaid rest rest' ∧
      (close = none → rest' = []) := by
  cases close with
  | none =>
    obtain rfl := hrest rfl
    obtain ⟨before', y', rfl, hbefore', hy⟩ := h.strip hbefore nofun
    exact ⟨before' ++ y', [], by simp, blanks_append.2 ⟨hbefore', hy.blanks_of_nil⟩,
      (Respaced.refl []).relaid, fun _ => rfl⟩
  | some mark =>
    have hmark := hclose mark rfl
    have hstart : Starts (!isBlank ·) (mark :: rest) :=
      starts_cons (by rw [not_isBlank_of_mem_marks hmark]; rfl)
    obtain ⟨before', y', rfl, hbefore', hy⟩ := h.strip hbefore hstart
    obtain ⟨more, rest', rfl, hmore, hrest'⟩ := hy.cons_mark hmark
    exact ⟨before' ++ more, rest', by simp, blanks_append.2 ⟨hbefore', hmore⟩, hrest', nofun⟩

/-- A list whose entries are carried is carried, up to a mark or the end of the text. -/
theorem carries_listed (h : Listed Entry cs as)
    (hentry : ∀ entry a, entry.length ≤ cs.length → Entry entry a → Carries Entry entry a)
    (hclose : ∀ mark ∈ close, mark ∈ marks) (hrest : close = none → rest = [])
    (hy : Relaid (cs ++ (close.toList ++ rest)) y) :
    ∃ cs' rest', y = cs' ++ (close.toList ++ rest') ∧ Listed Entry cs' as ∧ Relaid rest rest' ∧
      (close = none → rest' = []) := by
  induction h generalizing y with
  | none hblanks =>
    obtain ⟨blanks', rest', rfl, hblanks', hrest'⟩ := hy.behind hblanks hclose hrest
    exact ⟨blanks', rest', rfl, .none hblanks', hrest'⟩
  | @last before entry behind a hbefore he hbehind =>
    rw [List.append_assoc, List.append_assoc] at hy
    obtain ⟨before', entry', tail', rfl, hbefore', he', hy⟩ :=
      hentry entry a (by simp; omega) he hbefore hy
    obtain ⟨behind', rest', rfl, hbehind', hrest'⟩ := hy.behind hbehind hclose hrest
    exact ⟨before' ++ entry' ++ behind', rest', by simp, .last hbefore' he' hbehind', hrest'⟩
  | @more before entry behind cs a as hbefore he hbehind _ ih =>
    have hassoc : before ++ entry ++ behind ++ ',' :: cs ++ (close.toList ++ rest) =
        before ++ (entry ++ (behind ++ ((some ',').toList ++ (cs ++ (close.toList ++ rest))))) := by
      simp
    have hcomma : ∀ mark ∈ some ',', mark ∈ marks := by
      rintro _ ⟨⟩
      decide
    rw [hassoc] at hy
    obtain ⟨before', entry', tail', rfl, hbefore', he', hy⟩ :=
      hentry entry a (by simp; omega) he hbefore hy
    obtain ⟨behind', more, rfl, hbehind', hy, -⟩ := hy.behind hbehind hcomma nofun
    obtain ⟨cs', rest', rfl, hlisted, hrest'⟩ :=
      ih (fun entry a hle => hentry entry a (by simp; omega)) hy
    exact ⟨before' ++ entry' ++ behind' ++ ',' :: cs', rest', by simp,
      .more hbefore' he' hbehind' hlisted, hrest'⟩

end

/-! ## Literals -/

theorem carries_key {name : String} (h : Key cs name) : Carries Key cs name := by
  cases h with
  | quoted hquote hinside => exact carries_string (.quoted hquote hinside) hquote hinside
  | @word c cs hfirst hword =>
    have hc : isWordChar c = true := by
      rcases hfirst with h | rfl
      · simp [isWordChar, h]
      · decide
    exact carries_solid (Key.word hfirst hword) (List.cons_ne_nil c cs)
      (List.forall_mem_cons.2 ⟨isSolid_of_isWordChar hc,
        fun d hd => isSolid_of_isWordChar (hword d hd)⟩)

/-- A field is carried if its value is. -/
theorem carries_field {field : String × Value} (h : Field Denotes cs field)
    (hvalue : ∀ entry v, entry.length ≤ cs.length → Denotes entry v → Carries Denotes entry v) :
    Carries (Field Denotes) cs field := by
  obtain @⟨key, name, gap, gap', cs, v, hkey, hgap, hgap', hdenotes⟩ := h
  intro before tail y hbefore hy
  have hassoc : before ++ (key ++ gap ++ ':' :: (gap' ++ cs) ++ tail) =
      before ++ (key ++ (gap ++ ((some ':').toList ++ (gap' ++ (cs ++ tail))))) := by simp
  have hcolon : ∀ mark ∈ some ':', mark ∈ marks := by
    rintro _ ⟨⟩
    decide
  rw [hassoc] at hy
  obtain ⟨before', key', tail', rfl, hbefore', hkey', hy⟩ := carries_key hkey hbefore hy
  obtain ⟨more, rest, rfl, hmore, hy, -⟩ := hy.behind hgap hcolon nofun
  obtain ⟨more', cs', tail'', rfl, hmore', hdenotes', htail⟩ :=
    hvalue cs v (by simp; omega) hdenotes hgap' hy
  exact ⟨before', _, tail'', by simp, hbefore', .mk hkey' hmore hmore' hdenotes', htail⟩

/-- **A literal stands for the same value in the other text.** -/
theorem carries_denotes {v : Value} (h : Denotes cs v) : Carries Denotes cs v := by
  -- the entries of a list are no subterms of its derivation, but shorter texts
  induction hlen : cs.length using Nat.strong_induction_on generalizing cs v with
  | _ length ih =>
    cases h with
    | string hquote hinside => exact carries_string (.string hquote hinside) hquote hinside
    | number h =>
      obtain ⟨c, cs, rfl, -⟩ := h.exists_cons
      exact carries_solid (.number h) (List.cons_ne_nil c cs) h.isSolid
    | truth h =>
      refine carries_solid (.truth h) ?_ fun c hc =>
        isSolid_of_isWordChar (isWordChar_of_isAlpha (h.isAlpha c hc))
      rintro rfl
      cases h <;> contradiction
    | @object inside fields hfields hnodup =>
      simp only [List.length_append, List.length_cons, List.length_nil] at hlen
      refine carries_bracket (by decide) fun {tail y} hy => ?_
      have hbrace : ∀ mark ∈ some '\x7d', mark ∈ marks := by
        rintro _ ⟨⟩
        decide
      obtain ⟨inside', tail', rfl, hfields', htail, -⟩ := carries_listed hfields
        (fun entry field hle hfield => carries_field hfield fun cs v hle' hv =>
          ih _ (by omega) hv rfl) hbrace nofun hy
      exact ⟨inside', tail', rfl, .object hfields' hnodup, htail⟩
    | @array inside items hitems halike =>
      simp only [List.length_append, List.length_cons, List.length_nil] at hlen
      refine carries_bracket (by decide) fun {tail y} hy => ?_
      have hbracket : ∀ mark ∈ some ']', mark ∈ marks := by
        rintro _ ⟨⟩
        decide
      obtain ⟨inside', tail', rfl, hitems', htail, -⟩ := carries_listed hitems
        (fun entry item hle hitem => ih _ (by omega) hitem rfl) hbracket nofun hy
      exact ⟨inside', tail', rfl, .array hitems' halike, htail⟩

/-- **The grammar gives both texts the same values.** -/
theorem listed_of_relaid {values : List Value} (h : Listed Denotes raw values)
    (hraw : Relaid raw raw') : Listed Denotes raw' values := by
  rw [← List.append_nil raw] at hraw
  obtain ⟨cs', rest', rfl, hlisted, -, hrest'⟩ := @carries_listed raw raw' Value Denotes values
    none [] h (fun _ _ _ => carries_denotes) nofun (fun _ => rfl) hraw
  rw [hrest' rfl]
  simpa using hlisted

end CourseSite.Directive.Grammar
