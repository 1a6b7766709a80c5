/-
  Values that are displayed as literals.

  * `KeepsBackslashes`, `quoted_displayed`: the texts that stand between quotes as they are
    displayed; `eq_displayed_of_quoted`: no other literal of a text starts as it is displayed.
  * `IsWord`, `isWord_of_key`: the keys that are displayed as literals of themselves.
  * `joined`: entries as they are displayed in an array and in an object.
  * `Legible`: the values made of such texts and keys and of moderate doubles.
  * `denotes_display`: the text of a legible value is a literal of it.
-/
import CourseSite.Proofs.Directive.Numerals
import CourseSite.Proofs.Directive.Spacing
import CourseSite.Proofs.Directive.Typing

namespace CourseSite.Directive.Grammar

open Text (isBlank isLetterOrNumeral)
open Literal (isQuote isWordChar endsNumber)
open Value (displayChar)

variable {quote : Char} {inside text cs before behind tail rest : List Char} {name : String}

/-! ## Strings -/

/-- The text starts with a character that has no meaning behind a backslash. -/
def StartsPlain : List Char → Prop
  | [] => False
  | c :: _ => c ∉ escapes.map (·.1)

instance : (text : List Char) → Decidable (StartsPlain text)
  | [] => .isFalse id
  | c :: _ => inferInstanceAs (Decidable (c ∉ escapes.map (·.1)))

/-- Behind every backslash stands a character that has no meaning there. -/
def KeepsBackslashes (text : List Char) : Prop :=
  ∀ before behind, text = before ++ '\\' :: behind → StartsPlain behind

theorem keepsBackslashes_cons_iff {c : Char} : KeepsBackslashes (c :: text) ↔
    (c = '\\' → StartsPlain text) ∧ KeepsBackslashes text := by
  constructor
  · intro h
    refine ⟨fun hc => h [] text (by rw [hc]; rfl), fun before behind heq => ?_⟩
    exact h (c :: before) behind (by rw [heq]; rfl)
  · rintro ⟨hc, htext⟩ before behind heq
    rcases List.cons_eq_append_iff.1 heq with ⟨rfl, hslash⟩ | ⟨before, rfl, rfl⟩
    · obtain ⟨rfl, rfl⟩ := List.cons_eq_cons.1 hslash
      exact hc rfl
    · exact htext before behind rfl

theorem keepsBackslashes_nil : KeepsBackslashes [] := fun before _ heq => absurd heq (by simp)

instance : (text : List Char) → Decidable (KeepsBackslashes text)
  | [] => .isTrue keepsBackslashes_nil
  | c :: text =>
    have := instDecidableKeepsBackslashes text
    have : Decidable (c = '\\' → StartsPlain text) := instDecidableForall
    decidable_of_iff _ keepsBackslashes_cons_iff.symm

/-- A literal is at least as long as its text, and longer for each closing quote in it. -/
theorem Quoted.length_add_count_le (hquote : isQuote quote = true) (h : Quoted quote inside text) :
    text.length + text.count quote ≤ inside.length := by
  have hkey : quote ∈ escapes.map (·.1) := by
    rcases isQuote_iff.1 hquote with rfl | rfl <;> decide
  have hslash : '\\' ≠ quote := by
    rintro rfl
    exact absurd hquote (by decide)
  induction h with
  | nil => exact le_rfl
  | escape _ _ ih =>
    simp only [List.length_cons, List.count_cons]
    split <;> omega
  | @pair c _ _ hc _ ih =>
    have hne : c ≠ quote := by
      rintro rfl
      exact hc hkey
    simp only [List.length_cons, List.count_cons_of_ne hne, List.count_cons_of_ne hslash]
    omega
  | char _ hne _ ih =>
    simp only [List.length_cons, List.count_cons_of_ne hne]
    omega

/-- What no escape makes or takes away stands in a literal as often as in its text. -/
theorem Quoted.count_eq (h : Quoted quote inside text) {c : Char}
    (hescape : ∀ pair ∈ escapes, pair.1 = c ↔ pair.2 = c) (hslash : '\\' ≠ c) :
    inside.count c = text.count c := by
  induction h with
  | nil => rfl
  | escape hm _ ih =>
    have hiff := hescape _ hm
    simp only [List.count_cons_of_ne hslash, List.count_cons, beq_iff_eq, ih, hiff]
  | pair _ _ ih => simp only [List.count_cons_of_ne hslash, List.count_cons, ih]
  | char _ _ _ ih => simp only [List.count_cons, ih]

/-- What stands between the quotes of a displayed text. -/
def displayed (text : List Char) : List Char := text.flatMap displayChar

theorem displayed_quote : displayed ('\'' :: text) = '\\' :: '\'' :: displayed text := rfl

theorem displayed_cons {c : Char} (hc : c ≠ '\'') :
    displayed (c :: text) = c :: displayed text := by
  rw [displayed, List.flatMap_cons, displayChar, if_neg hc]
  rfl

theorem length_displayed (text : List Char) :
    (displayed text).length = text.length + text.count '\'' := by
  induction text with
  | nil => rfl
  | cons c text ih =>
    by_cases hc : c = '\''
    · subst hc
      rw [displayed_quote, List.count_cons_self]
      simp only [List.length_cons, ih]
      omega
    · rw [displayed_cons hc, List.count_cons_of_ne hc]
      simp only [List.length_cons, ih]
      omega

theorem count_displayed (text : List Char) :
    (displayed text).count '\'' = text.count '\'' := by
  induction text with
  | nil => rfl
  | cons c text ih =>
    by_cases hc : c = '\''
    · subst hc
      rw [displayed_quote, List.count_cons_of_ne (by decide), List.count_cons_self,
        List.count_cons_self, ih]
    · rw [displayed_cons hc, List.count_cons_of_ne hc, List.count_cons_of_ne hc, ih]

/-- **A text without an ambiguous backslash** is displayed as a literal of it. -/
theorem quoted_displayed (h : KeepsBackslashes text) : Quoted '\'' (displayed text) text := by
  induction hlen : text.length using Nat.strong_induction_on generalizing text with
  | _ length ih =>
    cases text with
    | nil => exact .nil
    | cons c text =>
      obtain ⟨hbehind, htext⟩ := keepsBackslashes_cons_iff.1 h
      rw [List.length_cons] at hlen
      by_cases hquote : c = '\''
      · subst hquote
        rw [displayed_quote]
        exact .escape (by decide) (ih _ (by omega) htext rfl)
      rw [displayed_cons hquote]
      by_cases hslash : c = '\\'
      · -- the character behind the backslash stands for itself, and is no quote
        subst hslash
        have hmem := hbehind rfl
        cases text with
        | nil => exact hmem.elim
        | cons d text =>
          have hne : d ≠ '\'' := by
            rintro rfl
            exact hmem (by decide)
          rw [List.length_cons] at hlen
          rw [displayed_cons hne]
          exact .pair hmem (ih _ (by omega) (keepsBackslashes_cons_iff.1 htext).2 rfl)
      · exact .char hslash hquote (ih _ (by omega) htext rfl)

/-- Only such a text is displayed as a literal of it. -/
theorem keepsBackslashes_of_quoted (h : Quoted '\'' (displayed text) text) :
    KeepsBackslashes text := by
  induction hlen : text.length using Nat.strong_induction_on generalizing text with
  | _ length ih =>
    cases text with
    | nil => exact keepsBackslashes_nil
    | cons c text =>
      rw [List.length_cons] at hlen
      have hlength := length_displayed text
      rw [keepsBackslashes_cons_iff]
      by_cases hquote : c = '\''
      · subst hquote
        rw [displayed_quote] at h
        cases h with
        | escape _ h => exact ⟨fun hc => absurd hc (by decide), ih _ (by omega) h rfl⟩
      rw [displayed_cons hquote] at h
      generalize hshown : displayed text = shown at h hlength
      cases h with
      | escape _ h =>
        -- the text would be too long for what is left of its own display
        have := h.length_add_count_le rfl
        rw [List.length_cons] at hlength
        omega
      | @pair d shown text hmem h =>
        have hne : d ≠ '\'' := by
          rintro rfl
          exact hmem (by decide)
        rw [displayed_cons hne] at hshown
        obtain ⟨-, rfl⟩ := List.cons_eq_cons.1 hshown
        rw [List.length_cons] at hlen
        refine ⟨fun _ => hmem, keepsBackslashes_cons_iff.2 ⟨?_, ih _ (by omega) h rfl⟩⟩
        rintro rfl
        exact absurd (by decide) hmem
      | char hc _ h =>
        subst hshown
        exact ⟨fun heq => absurd heq hc, ih _ (by omega) h rfl⟩

/-- No other literal of a text starts as it is displayed. -/
theorem eq_displayed_of_quoted (h : Quoted '\'' inside text)
    (heq : inside ++ '\'' :: tail = displayed text ++ '\'' :: rest) : inside = displayed text := by
  have hlength := h.length_add_count_le rfl
  have hcount := h.count_eq (c := '\'') (by decide) (by decide)
  rw [← length_displayed] at hlength
  rcases List.append_eq_append_iff.1 heq with ⟨more, hmore, -⟩ | ⟨more, rfl, hmore⟩
  · have hnil := congrArg List.length hmore
    rw [List.length_append] at hnil
    obtain rfl := List.eq_nil_of_length_eq_zero (show more.length = 0 by omega)
    rw [hmore, List.append_nil]
  · cases more with
    | nil => exact List.append_nil _
    | cons c more =>
      -- a closing quote that is left over is not accounted for in the text
      obtain ⟨rfl, -⟩ := List.cons_eq_cons.1 hmore
      rw [List.count_append, List.count_cons_self, count_displayed] at hcount
      omega

/-! ## White space -/

theorem blanks_space : Blanks [' '] := List.forall_mem_singleton.2 (by decide)

/-- Behind white space the same stands on both sides. -/
theorem eq_of_blanks_append {before' cs' : List Char} (hbefore : Blanks before)
    (hbefore' : Blanks before') (hcs : Starts (!isBlank ·) cs) (hcs' : Starts (!isBlank ·) cs')
    (heq : before ++ cs = before' ++ cs') : cs = cs' := by
  obtain ⟨more, rfl, rfl⟩ := exists_blanks_of_append_eq hbefore' hcs heq
  cases more with
  | nil => rfl
  | cons b more =>
    have hb : isBlank b = true := hbefore b (by simp)
    have := hcs' b rfl
    simp [hb] at this

/-! ## Keys -/

/-- A word that starts with a letter, a numeral or an underscore. -/
def IsWord : List Char → Prop
  | [] => False
  | c :: cs => (isLetterOrNumeral c = true ∨ c = '_') ∧ ∀ d ∈ cs, isWordChar d = true

instance : (cs : List Char) → Decidable (IsWord cs)
  | [] => .isFalse id
  | _ :: cs =>
    have := List.decidableBAll (isWordChar · = true) cs
    inferInstanceAs (Decidable (_ ∧ _))

theorem IsWord.key (h : IsWord name.toList) : Key name.toList name := by
  cases hname : name.toList with
  | nil => rw [hname] at h; exact h.elim
  | cons c cs =>
    rw [hname] at h
    rw [← String.ofList_toList (s := name), hname]
    exact .word h.1 h.2

/-- A text with a colon behind it is not its literal between quotes, as that one shows the colon
    too late. -/
theorem append_ne_of_quoted (hquote : isQuote quote = true) (hinside : Quoted quote inside text)
    (hbefore : Blanks before) :
    text ++ ':' :: rest ≠ before ++ (quote :: (inside ++ [quote]) ++ tail) := by
  intro heq
  have heq : text ++ ':' :: rest = before ++ quote :: inside ++ quote :: tail := by simp [heq]
  have hlength := hinside.length_add_count_le hquote
  have hcount := hinside.count_eq (c := ':') (by decide) (by decide)
  have hcolon : quote ≠ ':' := by
    rintro rfl
    exact absurd hquote (by decide)
  have hblanks : before.count ':' = 0 :=
    List.count_eq_zero.2 fun hmem => absurd (hbefore _ hmem) (by decide)
  rcases List.append_eq_append_iff.1 heq with ⟨left, hleft, hrest⟩ | ⟨left, hleft, -⟩
  · cases left with
    | nil =>
      have := congrArg List.length hleft
      simp only [List.length_append, List.length_cons, List.length_nil] at this
      omega
    | cons c left =>
      obtain ⟨rfl, -⟩ := List.cons_eq_cons.1 hrest
      have := congrArg (List.count ':') hleft
      rw [List.count_append, List.count_append, List.count_cons_self,
        List.count_cons_of_ne hcolon, hblanks] at this
      omega
  · have := congrArg List.length hleft
    simp only [List.length_append, List.length_cons] at this
    omega

/-- **A key that is displayed as a literal of it is a word.** -/
theorem isWord_of_key {key gap behind' : List Char} (h : Key key name) (hbefore : Blanks before)
    (hgap : Blanks gap) (hbehind : Blanks behind)
    (heq : before ++ (key ++ (gap ++ ':' :: behind')) = behind ++ (name.toList ++ ':' :: rest)) :
    IsWord name.toList ∧ behind' = rest := by
  obtain ⟨k, ks, hcons, hk, -⟩ := h.exists_cons
  have hstart : Starts (!isBlank ·) (key ++ (gap ++ ':' :: behind')) := by
    rw [hcons]
    exact starts_cons (by rw [hk]; rfl)
  cases h with
  | @quoted quote inside text hquote hinside =>
    obtain ⟨more, rfl, hname⟩ := exists_blanks_of_append_eq hbehind hstart heq
    rw [String.toList_ofList] at hname
    exact absurd hname (append_ne_of_quoted hquote hinside (blanks_append.1 hbefore).2)
  | @word c cs hfirst hword =>
    rw [String.toList_ofList] at heq ⊢
    refine ⟨⟨hfirst, hword⟩, ?_⟩
    have hname : Starts (!isBlank ·) (c :: cs ++ ':' :: rest) := by
      obtain ⟨rfl, -⟩ := List.cons_eq_cons.1 hcons
      exact starts_cons (by rw [hk]; rfl)
    have heq := List.append_cancel_left (eq_of_blanks_append hbefore hbehind hstart hname heq)
    have hcolon {cs : List Char} : Starts (!isBlank ·) (':' :: cs) := starts_cons (by decide)
    exact (List.cons_eq_cons.1
      (eq_of_blanks_append hgap blanks_nil hcolon hcolon heq)).2

/-! ## Lists -/

section
variable {α : Type} {Entry : List Char → α → Prop} {text : α → List Char} {gap : List Char}
  {as : List α}

/-- The texts of entries, each with a comma and a blank in front. -/
def spaced (text : α → List Char) : List α → List Char
  | [] => []
  | a :: as => ',' :: ' ' :: (text a ++ spaced text as)

/-- The texts of entries with a gap at both ends, and only one if there are no entries. -/
def joined (gap : List Char) (text : α → List Char) : List α → List Char
  | [] => gap
  | a :: as => gap ++ (text a ++ (spaced text as ++ gap))

theorem listed_spaced {a : α} (hbefore : Blanks before) (hgap : Blanks gap)
    (hentry : ∀ b ∈ a :: as, Entry (text b) b) :
    Listed Entry (before ++ (text a ++ (spaced text as ++ gap))) (a :: as) := by
  induction as generalizing a before with
  | nil =>
    have hlast := Listed.last hbefore (hentry a List.mem_cons_self) hgap
    rwa [List.append_assoc] at hlast
  | cons b as ih =>
    obtain ⟨ha, hentry⟩ := List.forall_mem_cons.1 hentry
    have hmore := Listed.more hbefore ha blanks_nil (ih blanks_space hentry)
    rw [List.append_nil, List.append_assoc] at hmore
    rw [spaced]
    simpa using hmore

/-- Entries whose texts stand for them make a list. -/
theorem listed_joined (hgap : Blanks gap) (hentry : ∀ a ∈ as, Entry (text a) a) :
    Listed Entry (joined gap text as) as := by
  cases as with
  | nil => exact .none hgap
  | cons a as => exact listed_spaced hgap hgap hentry

end

theorem toList_displayAll (items : List Value) :
    (", ".intercalate (Value.displayAll items)).toList = joined [] (·.display.toList) items := by
  cases items with
  | nil => simp [Value.displayAll, joined]
  | cons item items =>
    rw [joined, List.nil_append, List.append_nil, Value.displayAll]
    induction items generalizing item with
    | nil => simp [Value.displayAll, spaced]
    | cons next items ih =>
      rw [Value.displayAll, String.intercalate_cons_cons, String.toList_append, ih, spaced]
      simp

/-- The text of a field without the blank in front. -/
def displayField (field : String × Value) : List Char :=
  field.1.toList ++ ':' :: ' ' :: field.2.display.toList

theorem toList_displayFields (fields : List (String × Value)) :
    (",".intercalate (Value.displayFields fields)).toList ++ [' '] =
      joined [' '] displayField fields := by
  cases fields with
  | nil => simp [Value.displayFields, joined]
  | cons field fields =>
    rw [joined, ← List.append_assoc, ← List.append_assoc]
    congr 1
    induction fields generalizing field with
    | nil => simp [Value.displayFields, spaced, displayField]
    | cons next fields ih =>
      rw [Value.displayFields, Value.displayFields, String.intercalate_cons_cons,
        ← Value.displayFields, String.toList_append, ih, spaced]
      simp [displayField]

theorem toList_display_array (items : List Value) : (Value.array items).display.toList =
    '[' :: (joined [] (·.display.toList) items ++ [']']) := by
  rw [Value.display, ← toList_displayAll]
  simp

theorem toList_display_object (fields : List (String × Value)) :
    (Value.object fields).display.toList =
      '\x7b' :: (joined [' '] displayField fields ++ ['\x7d']) := by
  rw [Value.display, ← toList_displayFields]
  simp

theorem toList_display_string (text : String) : (Value.string text).display.toList =
    '\'' :: (displayed text.toList ++ ['\'']) := by
  rw [Value.display, displayed]
  simp

/-! ## Legible values -/

/-- The value is made of texts and keys that are displayed as literals, and its doubles are
    moderate. -/
inductive Legible : Value → Prop
  | string {text : String} : KeepsBackslashes text.toList → Legible (.string text)
  | integer {n : Int64} : Legible (.integer n)
  | float {x : Double} : x.IsModerate → Legible (.float x)
  | bool {b : Bool} : Legible (.bool b)
  | object {fields : List (String × Value)} : (∀ field ∈ fields, IsWord field.1.toList) →
      (∀ field ∈ fields, Legible field.2) → Legible (.object fields)
  | array {items : List Value} : (∀ item ∈ items, Legible item) → Legible (.array items)

theorem truth_display (b : Bool) : Truth (Value.bool b).display.toList (.bool b) := by
  cases b with
  | false => exact .ofFalse (by simp [Value.display])
  | true => exact .ofTrue (by simp [Value.display])

/-- **The text of a legible value is a literal of it**, if there is any. -/
theorem denotes_display {v : Value} (hlegible : Legible v) (h : Denotes cs v) :
    Denotes v.display.toList v := by
  induction hlegible generalizing cs with
  | @string text htext =>
    have hdenotes := Denotes.string rfl (quoted_displayed htext)
    rw [String.ofList_toList] at hdenotes
    rwa [toList_display_string]
  | integer => exact .number (numeral_toString _)
  | float hx => exact .number (numeral_render hx)
  | bool => exact .truth (truth_display _)
  | @object fields hwords _ ih =>
    cases h with
    | number h | truth h => cases h
    | object hfields hnodup =>
      rw [toList_display_object]
      refine .object (listed_joined blanks_space fun field hfield => ?_) hnodup
      obtain ⟨entry, hentry⟩ := exists_entry_of_listed hfields field hfield
      obtain ⟨_, _, _, hvalue⟩ := hentry
      have htext := Field.mk (hwords _ hfield).key blanks_nil blanks_space (ih _ hfield hvalue)
      rwa [List.append_nil] at htext
  | @array items _ ih =>
    cases h with
    | number h | truth h => cases h
    | array hitems halike =>
      rw [toList_display_array]
      refine .array (listed_joined blanks_nil fun item hitem => ?_) halike
      obtain ⟨entry, hentry⟩ := exists_entry_of_listed hitems item hitem
      exact ih item hitem hentry

end CourseSite.Directive.Grammar
