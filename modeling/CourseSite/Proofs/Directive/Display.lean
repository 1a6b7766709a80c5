/-
  Which values are displayed as literals of themselves.

  * `starts_display`: a displayed value does not start with white space.
  * `Coincides`, `forall_of_listed`: an entry that stands where it is displayed ends where its
    display ends; then so do all entries of a list.
  * `legible_of_denotes`: if the display of a value starts with a literal of it, the value is
    legible.
  * `display_iff_legible`: the display of an argument is read as the argument just if the
    argument is legible.
  * `unread_displays`: a text, a key and a double that are not.
-/
import CourseSite.Proofs.Directive.Legible
import CourseSite.Proofs.Directive.Insignificance

namespace CourseSite.Directive.Grammar

open Text (isBlank)
open Literal (endsNumber)

variable {used tail rest cs before : List Char} {v : Value}

/-! ## Where a display starts -/

/-- A displayed value does not start with white space. -/
theorem starts_display (v : Value) (rest : List Char) :
    Starts (!isBlank ·) (v.display.toList ++ rest) := by
  cases v with
  | string text => rw [toList_display_string]; exact starts_cons (by decide)
  | integer n => exact (Denotes.number (numeral_toString n)).starts rest
  | bool b => exact (Denotes.truth (truth_display b)).starts rest
  | object fields => rw [toList_display_object]; exact starts_cons (by decide)
  | array items => rw [toList_display_array]; exact starts_cons (by decide)
  | float x =>
    by_cases hx : x.IsModerate
    · exact (Denotes.number (numeral_render hx)).starts rest
    · obtain ⟨front, c, behind, htext, hfront, hc⟩ := exists_letter_of_not_isModerate hx
      rw [Value.display, htext]
      cases front with
      | nil => exact starts_value (by simp [startsValue, hc])
      | cons d front =>
        have hd := hfront d List.mem_cons_self
        simp only [isNumeric, Bool.or_eq_true, or_assoc] at hd
        exact starts_value (by rcases hd with hd | hd | hd <;> simp [startsValue, hd])

/-! ## Lists -/

section
variable {α : Type} {Entry : List Char → α → Prop} {text : α → List Char} {P : α → Prop}
  {gap : List Char} {close : Char} {as : List α}

theorem starts_spaced (hgap : Blanks gap) (hclose : endsNumber close = true) (as : List α) :
    Starts endsNumber (spaced text as ++ (gap ++ close :: rest)) := by
  cases as with
  | nil =>
    have hstarts : Starts endsNumber (close :: rest) := starts_cons hclose
    simpa [spaced] using starts_endsNumber hgap hstarts
  | cons => exact starts_cons (by decide)

/-- An entry of at most `n` characters where the entry `a` is displayed ends with the display, and
    the entry has the property. -/
def Coincides (Entry : List Char → α → Prop) (text : α → List Char) (P : α → Prop) (n : ℕ) (a : α) :
    Prop :=
  ∀ ⦃before front entry tail rest : List Char⦄, entry.length ≤ n → Blanks before → Blanks front →
    Entry entry a → before ++ (entry ++ tail) = front ++ (text a ++ rest) →
    Starts endsNumber tail → Starts endsNumber rest → P a ∧ tail = rest

theorem Coincides.mono {m n : ℕ} {a : α} (h : Coincides Entry text P n a) (hle : m ≤ n) :
    Coincides Entry text P m a :=
  fun _ _ _ _ _ hentry => h (hentry.trans hle)

theorem forall_of_spaced {front : List Char} (hgap : Blanks gap) (hclose : endsNumber close = true)
    (h : Listed Entry cs as) (hfront : Blanks front)
    (hentry : ∀ a ∈ as, Coincides Entry text P cs.length a)
    (heq : ∀ a others, as = a :: others →
      cs ++ close :: tail = front ++ (text a ++ (spaced text others ++ (gap ++ close :: rest)))) :
    ∀ a ∈ as, P a := by
  induction h generalizing front with
  | none => exact fun _ h => absurd h List.not_mem_nil
  | @last before entry behind a hbefore he hbehind =>
    have heq := heq a [] rfl
    rw [List.append_assoc, List.append_assoc] at heq
    refine List.forall_mem_singleton.2 (hentry a List.mem_cons_self ?_ hbefore hfront he heq
      (starts_endsNumber hbehind (starts_cons hclose)) (starts_spaced hgap hclose [])).1
    simp only [List.length_append]
    omega
  | @more before entry behind cs a others hbefore he hbehind _ ih =>
    have hassoc : before ++ entry ++ behind ++ ',' :: cs ++ close :: tail =
        before ++ (entry ++ (behind ++ ',' :: (cs ++ close :: tail))) := by simp
    have heq := heq a others rfl
    rw [hassoc] at heq
    obtain ⟨ha, hrest⟩ := hentry a List.mem_cons_self (by simp; omega) hbefore hfront he heq
      (starts_endsNumber hbehind (starts_cons (by decide))) (starts_spaced hgap hclose others)
    refine List.forall_mem_cons.2 ⟨ha, ih blanks_space (fun b hb =>
      (hentry b (List.mem_cons_of_mem _ hb)).mono (by simp; omega)) ?_⟩
    rintro b others rfl
    -- the commas correspond, and so does what stands behind them
    have hcomma {cs : List Char} : Starts (!isBlank ·) (',' :: cs) := starts_cons (by decide)
    have hnext := eq_of_blanks_append hbehind blanks_nil hcomma hcomma hrest
    rw [(List.cons_eq_cons.1 hnext).2]
    simp

/-- **What holds of each entry that coincides with its display holds of all entries of a list that
    does.** -/
theorem forall_of_listed (hgap : Blanks gap) (hclose : endsNumber close = true)
    (h : Listed Entry cs as) (hentry : ∀ a ∈ as, Coincides Entry text P cs.length a)
    (heq : cs ++ close :: tail = joined gap text as ++ close :: rest) : ∀ a ∈ as, P a := by
  refine @forall_of_spaced tail rest cs α Entry text P gap close as gap hgap hclose h hgap hentry ?_
  rintro a others rfl
  rw [heq, joined]
  simp

end

/-- A list of one entry starts with it. -/
theorem exists_entry_of_singleton (h : Listed Denotes cs [v]) :
    ∃ before used tail, cs = before ++ (used ++ tail) ∧ Blanks before ∧ Denotes used v ∧
      Starts endsNumber tail := by
  cases h with
  | @last before used behind _ hbefore hused hbehind =>
    have htail : Starts endsNumber (behind ++ []) := starts_endsNumber hbehind nofun
    rw [List.append_nil] at htail
    exact ⟨before, used, behind, by simp, hbefore, hused, htail⟩
  | @more before used behind cs _ _ hbefore hused hbehind _ =>
    exact ⟨before, used, behind ++ ',' :: cs, by simp, hbefore, hused,
      starts_endsNumber hbehind (starts_cons (by decide))⟩

/-! ## Values -/

theorem starts_parenthesis (h : Starts endsNumber cs) (rest : List Char) :
    Starts endsArgument (cs ++ ')' :: rest) := by
  cases cs with
  | nil => exact starts_cons (by decide)
  | cons c cs => exact starts_cons (by rw [endsArgument, h c rfl]; rfl)

theorem starts_endsArgument (h : Starts endsNumber cs) : Starts endsArgument cs :=
  h.mono fun c hc => by rw [endsArgument, hc]; rfl

/-- The literal of a legible value ends where its display ends. -/
theorem rest_eq_of_denotes (hlegible : Legible v) (h : Denotes used v)
    (heq : used ++ tail = v.display.toList ++ rest) (htail : Starts endsNumber tail)
    (hrest : Starts endsNumber rest) : tail = rest := by
  obtain ⟨_, hread⟩ := complete _ le_rfl h htail 0
  obtain ⟨_, hread'⟩ := complete _ le_rfl (denotes_display hlegible h) hrest 0
  rw [heq, hread'] at hread
  simp only [Except.ok.injEq, Prod.mk.injEq] at hread
  exact hread.2.2.symm

/-- A field ends where it is displayed to end if its value does. -/
theorem coincides_field {n : ℕ}
    (hvalue : ∀ v, Coincides Denotes (·.display.toList) Legible n v) (field : String × Value) :
    Coincides (Field Denotes) displayField
      (fun field => IsWord field.1.toList ∧ Legible field.2) n field := by
  intro before front entry tail rest hle hbefore hfront hfield heq htail hrest
  obtain @⟨key, name, gap, gap', cs, v, hkey, hgap, hgap', hv⟩ := hfield
  simp only [List.length_append, List.length_cons] at hle
  have hassoc : before ++ (key ++ gap ++ ':' :: (gap' ++ cs) ++ tail) =
      before ++ (key ++ (gap ++ ':' :: (gap' ++ (cs ++ tail)))) := by simp
  have hassoc' : front ++ (displayField (name, v) ++ rest) =
      front ++ (name.toList ++ ':' :: ([' '] ++ (v.display.toList ++ rest))) := by
    simp [displayField]
  rw [hassoc, hassoc'] at heq
  obtain ⟨hword, heq⟩ := isWord_of_key hkey hbefore hgap hfront heq
  obtain ⟨hlegible, hends⟩ := hvalue v (by omega) hgap' blanks_space hv heq htail hrest
  exact ⟨⟨hword, hlegible⟩, hends⟩

/-- **A value whose display starts with a literal of it is legible.** -/
theorem legible_of_denotes (h : Denotes used v) (heq : used ++ tail = v.display.toList ++ rest)
    (htail : Starts endsArgument tail) : Legible v := by
  -- the entries of a list are shorter texts
  induction hlen : used.length using Nat.strong_induction_on generalizing used tail rest v with
  | _ length ih =>
    have hvalue (n : ℕ) (hn : n < length) (v : Value) :
        Coincides Denotes (·.display.toList) Legible n v := by
      intro before front entry tail rest hle hbefore hfront hv heq htail hrest
      have heq := eq_of_blanks_append hbefore hfront (hv.starts tail) (starts_display v rest) heq
      have hlegible := ih _ (by omega) hv heq (starts_endsArgument htail) rfl
      exact ⟨hlegible, rest_eq_of_denotes hlegible hv heq htail hrest⟩
    cases h with
    | @string quote inside text hquote hinside =>
      rw [toList_display_string, String.toList_ofList, List.cons_append, List.cons_append,
        List.append_assoc, List.append_assoc] at heq
      obtain ⟨rfl, heq⟩ := List.cons_eq_cons.1 heq
      rw [eq_displayed_of_quoted hinside heq] at hinside
      exact .string (by rw [String.toList_ofList]; exact keepsBackslashes_of_quoted hinside)
    | number h =>
      cases h with
      | integer => exact .integer
      | float hs hw hf hne hn hx =>
        rw [Value.display] at heq
        exact .float (isModerate_of_numeral (.float hs hw hf hne hn hx) heq htail)
    | truth h => cases h <;> exact .bool
    | @object cs fields hfields _ =>
      rw [toList_display_object, List.cons_append, List.cons_append, List.append_assoc,
        List.append_assoc] at heq
      simp only [List.length_cons, List.length_append] at hlen
      have hall := forall_of_listed blanks_space (by decide) hfields
        (fun field _ => coincides_field (hvalue cs.length (by omega)) field)
        (List.cons_eq_cons.1 heq).2
      exact .object (fun field h => (hall field h).1) fun field h => (hall field h).2
    | @array cs items hitems _ =>
      rw [toList_display_array, List.cons_append, List.cons_append, List.append_assoc,
        List.append_assoc] at heq
      simp only [List.length_cons, List.length_append] at hlen
      exact .array (forall_of_listed blanks_nil (by decide) hitems
        (fun item _ => hvalue cs.length (by omega) item) (List.cons_eq_cons.1 heq).2)

end CourseSite.Directive.Grammar

namespace CourseSite.Directive.Segment

open Attempt (bind_eq_ok_iff map_eq_ok_iff)
open Grammar

variable {source name : String} {segments : List Segment} {call : Call} {v : Value}

/-! ## Documents -/

/-- The text is read as one call, and the value is its only argument. -/
def ReadsBack (text : String) (v : Value) : Prop :=
  ∃ segments call, parse text = .ok segments ∧ calls segments = [call] ∧ call.arguments = [v]

/-- A literal as the argument list of a call is all that is read. -/
theorem parse_of_denotes {raw : String} (hname : IsIdentifier name.toList)
    (h : Denotes raw.toList v) :
    ∃ call, parse ("@" ++ name ++ "(" ++ raw ++ ")") = .ok [.call call] ∧ call.name = name ∧
      call.arguments = [v] := by
  have hlisted := Listed.last blanks_nil h blanks_nil
  rw [List.nil_append, List.append_nil] at hlisted
  obtain ⟨call, front, hcall, harguments, hparse⟩ :=
    exists_parse_call hname (parseArguments_of_listed hlisted 1) ""
  have hempty : parse "" = .ok [] := by cbv
  have hsource : "@" ++ name ++ "(" ++ raw ++ ")" = withCall name raw.toList "" := by
    simp [withCall]
  refine ⟨call, ?_, hcall, harguments⟩
  rw [hsource, hparse, show String.ofList (splitComment "".toList).2 = "" by cbv, hempty]
  rfl

theorem readsBack_of_denotes {raw : String} (hname : IsIdentifier name.toList)
    (h : Denotes raw.toList v) : ReadsBack ("@" ++ name ++ "(" ++ raw ++ ")") v := by
  obtain ⟨call, hparse, -, harguments⟩ := parse_of_denotes hname h
  exact ⟨_, call, hparse, rfl, harguments⟩

/-- What is read back from its display is legible. -/
theorem legible_of_readsBack (hname : IsIdentifier name.toList)
    (h : ReadsBack ("@" ++ name ++ "(" ++ v.display ++ ")") v) : Legible v := by
  obtain ⟨segments, call, hparse, hcalls, harguments⟩ := h
  have hsource : ("@" ++ name ++ "(" ++ v.display ++ ")").toList =
      '@' :: (name.toList ++ '(' :: (v.display.toList ++ [')'])) := by simp
  rw [parse, hsource, pieces_of_head (callHead?_eq_some_iff.2 ⟨hname, rfl⟩),
    map_eq_ok_iff] at hparse
  obtain ⟨pieces', hpieces, rfl⟩ := hparse
  obtain ⟨⟨raw, behind⟩, hsplit, hpieces⟩ := bind_eq_ok_iff.1 hpieces
  obtain ⟨arguments, hread, hpieces⟩ := bind_eq_ok_iff.1 hpieces
  obtain ⟨more, -, rfl⟩ := map_eq_ok_iff.1 hpieces
  -- the first call is the only one
  rw [gather, calls_append_cons] at hcalls
  obtain ⟨rfl, -⟩ := List.cons_eq_cons.1 hcalls
  obtain rfl : arguments = [v] := harguments
  have hraw := (Brackets.splitArguments_eq_ok_iff.1 hsplit).1
  obtain ⟨before, used, tail, rfl, hbefore, hused, htail⟩ :=
    exists_entry_of_singleton (listed_of_parseArguments hread)
  refine legible_of_denotes hused (eq_of_blanks_append hbefore blanks_nil (hused.starts _)
    (starts_display v [')']) ?_) (starts_parenthesis htail behind)
  rw [List.nil_append, hraw]
  simp

/-- **Which arguments are displayed as literals of themselves.**  The display of an argument of a
    document that is read, as the argument list of a call, is read as that argument alone just if
    the argument is legible: no backslash in its texts stands at the end or before a character with
    a meaning behind one, its keys are words, and its doubles are written without an exponent. -/
theorem display_iff_legible (hparse : parse source = .ok segments) (hcall : call ∈ calls segments)
    (hv : v ∈ call.arguments) (hname : IsIdentifier name.toList) :
    ReadsBack ("@" ++ name ++ "(" ++ v.display ++ ")") v ↔ Legible v := by
  refine ⟨legible_of_readsBack hname, fun hlegible => ?_⟩
  have hread := (((parse_faithful source).1 segments hparse).stands call hcall).arguments
  obtain ⟨entry, hentry⟩ := exists_entry_of_listed (listed_of_parseArguments hread) v hv
  exact readsBack_of_denotes hname (denotes_display hlegible hentry)

/-! ## A legible argument and three others -/

namespace Shown

/-- A text with a quote and a backslash in it, and a key with a hyphen. -/
def fields : List (String × Value) :=
  [("say", .string "it's \\d"), ("k-1", .array [.integer 1, .integer (-2)]), ("no", .object [])]

/-- The text of the argument, with other quotes and a comma behind the last element. -/
def raw : String := "\x7bsay: \"it's \\d\", 'k-1': [1, -2,], no: \x7b\x7d\x7d"

theorem legible_fields : Legible (.object fields) := by
  have hsay : KeepsBackslashes "it's \\d".toList := by
    rw [show "it's \\d".toList = ['i', 't', '\'', 's', ' ', '\\', 'd'] by simp]
    decide
  have hnone : Legible (.object []) := .object (List.forall_mem_nil _) (List.forall_mem_nil _)
  have hitems : Legible (.array [.integer 1, .integer (-2)]) := .array (by simp [Legible.integer])
  refine .object ?_ ?_
  · have hkeys : fields.map (·.1.toList) = [['s', 'a', 'y'], ['k', '-', '1'], ['n', 'o']] := by
      simp [fields]
    rw [← List.forall_mem_map (f := fun field : String × Value => field.1.toList), hkeys]
    decide
  · simp only [fields, List.forall_mem_cons]
    exact ⟨.string hsay, hitems, hnone, List.forall_mem_nil _⟩

/-- A literal of a double that is displayed with an exponent. -/
theorem numeral_large : Numeral "100000000000000000.0".toList
    (.float (Double.ofDecimal false (10 ^ 18) (-1))) := by
  have htext : "100000000000000000.0".toList =
      [] ++ '1' :: List.replicate 17 '0' ++ '.' :: ['0'] := by decide
  rw [htext]
  refine .float (.inl rfl) (List.forall_mem_cons.2 ⟨rfl, digits_replicate 17⟩) (digits_replicate 1)
    nofun rfl ?_
  exact Double.isNearest_ofDecimal false (10 ^ 18) (-1)

end Shown

open Shown in
/-- The call stands behind other text. -/
theorem display_iff_legible_note :
    parse ("Look: @Note(" ++ raw ++ ")") =
        .ok [.literal "Look: ", .call ⟨"Note", [.object fields], raw, ⟨6, 54⟩, 1⟩] ∧
      ReadsBack ("@" ++ "V" ++ "(" ++ (Value.object fields).display ++ ")") (.object fields) := by
  have hparse : parse ("Look: @Note(" ++ raw ++ ")") =
      .ok [.literal "Look: ", .call ⟨"Note", [.object fields], raw, ⟨6, 54⟩, 1⟩] := by cbv
  exact ⟨hparse, (display_iff_legible hparse List.mem_cons_self List.mem_cons_self
    (show IsIdentifier "V".toList from ⟨rfl, List.forall_mem_nil _⟩)).2 legible_fields⟩

/-- The source is read as a call with the value as its only argument, and the display of the value
    as the argument list of a call is not. -/
def Unread (source : String) (v : Value) : Prop :=
  ReadsBack source v ∧ ¬ ReadsBack ("@" ++ "V" ++ "(" ++ v.display ++ ")") v

open Shown in
/-- A text with a backslash at its end, a key of two words, and a double that takes an exponent. -/
theorem unread_displays :
    Unread "@V('a\\\\')" (.string "a\\") ∧
      Unread "@V(\x7b'a b': 1\x7d)" (.object [("a b", .integer 1)]) ∧
      Unread "@V(100000000000000000.0)" (.float (Double.ofDecimal false (10 ^ 18) (-1))) := by
  have hname : IsIdentifier "V".toList := ⟨rfl, List.forall_mem_nil _⟩
  have htext : ReadsBack "@V('a\\\\')" (.string "a\\") :=
    ⟨_, ⟨"V", _, "'a\\\\'", ⟨0, 9⟩, 1⟩, by cbv, rfl, rfl⟩
  have hkey : ReadsBack "@V(\x7b'a b': 1\x7d)" (.object [("a b", .integer 1)]) :=
    ⟨_, ⟨"V", _, "\x7b'a b': 1\x7d", ⟨0, 14⟩, 1⟩, by cbv, rfl, rfl⟩
  have hlarge := @readsBack_of_denotes "V" _ "100000000000000000.0" hname (.number numeral_large)
  refine ⟨⟨htext, fun h => ?_⟩, ⟨hkey, fun h => ?_⟩, hlarge, fun h => ?_⟩
  · cases legible_of_readsBack hname h with
    | string hkeeps => exact hkeeps ['a'] [] (by simp)
  · cases legible_of_readsBack hname h with
    | object hwords =>
      have hword := hwords _ List.mem_cons_self
      rw [show "a b".toList = ['a', ' ', 'b'] by simp] at hword
      exact absurd hword (by decide)
  · cases legible_of_readsBack hname h with
    | float hmoderate => exact absurd hmoderate (by decide +kernel)

end CourseSite.Directive.Segment
