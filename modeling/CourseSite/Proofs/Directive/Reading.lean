/-
  Argument lists are read exactly as the grammar has them.

  * `Sound`, `sound`: what is read as a value is a literal of it; `Sound.readItems` and
    `Sound.readFields` carry this over to lists.
  * `Complete`, `complete`: a literal is read, if something follows that may follow a value;
    `Complete.readItems` and `Complete.readFields` carry this over to lists.
  * `listed_of_parseArguments`, `parseArguments_of_listed`: both for a whole argument list.
-/
import CourseSite.Proofs.Directive.Equations
import CourseSite.Proofs.Directive.Fields

namespace CourseSite.Directive.Grammar

open Attempt (bind_eq_ok_iff map_eq_ok_iff)
open Fields (contains_iff nodup_keys_concat not_mem_keys)
open Text (isBlank)
open Literal

variable {line line' : Nat} {cs rest : List Char} {close : Option Char} {seen : Fields Value}

/-! ## Arrays of one shape -/

theorem agrees_iff {v w : Value} :
    Shape.agrees (Shape.ofValue v) (Shape.ofValue w) = true ↔ SameShape v w := by
  fun_induction Shape.ofValue v generalizing w with
  | case1 =>
    cases w with
    | array items =>
      refine ⟨fun _ => .emptyLeft, fun _ => ?_⟩
      cases items <;> rfl
    | _ => exact ⟨nofun, fun h => by cases h with | scalar h => cases h⟩
  | case2 first others ih =>
    cases w with
    | array items =>
      cases items with
      | nil => exact ⟨fun _ => .emptyRight, fun _ => rfl⟩
      | cons first' others' =>
        rw [Shape.ofValue, Shape.agrees, ih]
        refine ⟨.nested, fun h => ?_⟩
        cases h with
        | scalar _ hne => exact absurd rfl hne
        | nested h => exact h
    | _ => exact ⟨nofun, fun h => by cases h with | scalar h => cases h⟩
  | case3 v hempty harray =>
    have hne : v.kind ≠ .array := by
      cases v with
      | array items =>
        cases items with
        | nil => exact absurd rfl hempty
        | cons first others => exact absurd rfl (harray first others)
      | _ => nofun
    have hscalar : SameShape v w ↔ v.kind = w.kind := by
      refine ⟨fun h => ?_, fun h => .scalar h hne⟩
      cases h with
      | scalar h => exact h
      | _ => exact absurd rfl hne
    rw [hscalar]
    cases w with
    | array items => cases items <;> exact ⟨nofun, fun h => absurd h hne⟩
    | _ => simp [Shape.ofValue, Shape.agrees, Value.kind]

theorem mixed?_eq_none_iff {items : List Value} : mixed? items = none ↔ Alike items := by
  cases items with
  | nil => simp [mixed?, Alike]
  | cons first others =>
    simp only [mixed?, Option.map_eq_none_iff, List.find?_eq_none, Bool.not_eq_true',
      Bool.not_eq_false, List.forall_mem_map, agrees_iff]
    simp [Alike]

/-! ## What is read is in the grammar -/

/-- What stands behind an item that was read. -/
theorem exists_of_itemsBehind {v : Value} {vs : List Value}
    (h : itemsBehind close v line cs = .ok (vs, line', rest)) :
    ∃ after, Blanks after ∧
      (cs = after ++ (close.toList ++ rest) ∧ (close = none → rest = []) ∧ vs = [v] ∨
        ∃ next line₁ more, cs = after ++ ',' :: next ∧
          readItems close line₁ next = .ok (more, line', rest) ∧ vs = v :: more) := by
  obtain ⟨after, line₁, hafter, hcases⟩ := itemsBehind_cases close v line cs
  refine ⟨after, hafter, ?_⟩
  rcases hcases with ⟨rfl, heq⟩ | ⟨next, rfl, heq⟩ | ⟨c, next, rfl, rfl, heq⟩ | ⟨c, heq⟩
  · rw [heq] at h
    cases close <;> cases h
    exact .inl ⟨by simp, fun _ => rfl, rfl⟩
  · rw [heq, map_eq_ok_iff] at h
    obtain ⟨⟨more, _, _⟩, hread, hvs⟩ := h
    cases hvs
    exact .inr ⟨next, line₁, more, rfl, hread, rfl⟩
  · rw [heq] at h
    cases h
    exact .inl ⟨rfl, nofun, rfl⟩
  · rw [heq] at h
    cases h

/-- What stands behind a field that was read. -/
theorem exists_of_fieldsBehind {fs : Fields Value}
    (h : fieldsBehind seen line cs = .ok (fs, line', rest)) :
    ∃ after, Blanks after ∧
      (cs = after ++ '\x7d' :: rest ∧ fs = seen ∨
        ∃ next line₁, cs = after ++ ',' :: next ∧
          readFields seen line₁ next = .ok (fs, line', rest)) := by
  obtain ⟨after, line₁, hafter, hcases⟩ := fieldsBehind_cases seen line cs
  refine ⟨after, hafter, ?_⟩
  rcases hcases with ⟨-, heq⟩ | ⟨next, rfl, heq⟩ | ⟨next, rfl, heq⟩ | ⟨c, heq⟩ <;> rw [heq] at h
  · cases h
  · exact .inr ⟨next, line₁, rfl, h⟩
  · cases h
    exact .inl ⟨rfl, rfl⟩
  · cases h

/-- What stands behind a key that was read. -/
theorem exists_of_fieldsBehindKey {name : String} {fs : Fields Value}
    (h : fieldsBehindKey seen name line cs = .ok (fs, line', rest)) :
    ∃ before behind text line₁ v line₂ next,
      cs = before ++ ':' :: (behind ++ text) ∧ Blanks before ∧ Blanks behind ∧
      readValue line₁ text = .ok (v, line₂, next) ∧ ¬ seen.contains name = true ∧
      fieldsBehind (seen ++ [(name, v)]) line₂ next = .ok (fs, line', rest) := by
  obtain ⟨before, behind, text, line₁, rfl, hbefore, hbehind, heq⟩ | ⟨line₁, heq⟩ :=
    fieldsBehindKey_cases seen name line cs
  · rw [heq, bind_eq_ok_iff] at h
    obtain ⟨⟨v, line₂, next⟩, hread, h⟩ := h
    dsimp only at h
    split at h
    · cases h
    · rename_i hnew
      exact ⟨before, behind, text, line₁, v, line₂, next, rfl, hbefore, hbehind, hread, hnew, h⟩
  · rw [heq] at h
    cases h

/-- Values in texts of length `n` at most are read as the grammar has them. -/
def Sound (n : ℕ) : Prop := ∀ {line line' : Nat} {cs rest : List Char} {v : Value},
  cs.length ≤ n → readValue line cs = .ok (v, line', rest) →
    ∃ used, cs = used ++ rest ∧ Denotes used v

theorem Sound.readItems {n : ℕ} (sound : Sound n) {vs : List Value} (hn : cs.length ≤ n)
    (h : readItems close line cs = .ok (vs, line', rest)) :
    ∃ used, cs = used ++ (close.toList ++ rest) ∧ Listed Denotes used vs ∧
      (close = none → rest = []) := by
  induction hlen : cs.length using Nat.strong_induction_on generalizing cs line vs with
  | _ length ih =>
    rw [readItems_eq] at h
    obtain ⟨before, line₁, start, hskip, rfl, hbefore, -⟩ := skipBlanks_spec line cs
    simp only [hskip] at h
    rw [List.length_append] at hn hlen
    cases start with
    | nil =>
      cases close <;> cases h
      exact ⟨before, rfl, .none hbefore, fun _ => rfl⟩
    | cons c start =>
      dsimp only at h
      split at h
      · rename_i hc
        cases h
        subst hc
        exact ⟨before, rfl, .none hbefore, fun h => absurd h (Option.some_ne_none c)⟩
      obtain ⟨⟨v, line₂, behind⟩, hread, heq⟩ := bind_eq_ok_iff.1 h
      obtain ⟨entry, hentry, hdenotes⟩ := sound (by omega) hread
      rw [hentry] at hn hlen ⊢
      obtain ⟨after, hafter, ⟨rfl, hnone, rfl⟩ | ⟨next, line₃, more, rfl, hread, rfl⟩⟩ :=
        exists_of_itemsBehind heq
      · exact ⟨_, by simp, .last hbefore hdenotes hafter, hnone⟩
      · simp only [List.length_append, List.length_cons] at hn hlen
        obtain ⟨used, rfl, hlisted, hnone⟩ := ih next.length (by omega) (by omega) hread rfl
        exact ⟨_, by simp, .more hbefore hdenotes hafter hlisted, hnone⟩

theorem Sound.readFields {n : ℕ} (sound : Sound n) {fs : Fields Value} (hn : cs.length ≤ n)
    (hseen : seen.keys.Nodup) (h : readFields seen line cs = .ok (fs, line', rest)) :
    ∃ used more, fs = seen ++ more ∧ cs = used ++ '\x7d' :: rest ∧
      Listed (Field Denotes) used more ∧ fs.keys.Nodup := by
  induction hlen : cs.length using Nat.strong_induction_on generalizing cs line seen with
  | _ length ih =>
    rw [readFields_eq] at h
    obtain ⟨before, line₁, start, hskip, rfl, hbefore, -⟩ := skipBlanks_spec line cs
    simp only [hskip] at h
    rw [List.length_append] at hn hlen
    cases start with
    | nil => cases h
    | cons c start =>
      dsimp only at h
      split at h
      · rename_i hc
        cases h
        subst hc
        exact ⟨before, [], by simp, rfl, .none hbefore, hseen⟩
      obtain ⟨⟨name, line₂, colon⟩, hname, heq⟩ := bind_eq_ok_iff.1 h
      obtain ⟨key, hkeyText, hkey⟩ := key_of_key hname
      obtain ⟨gap, gap', valueText, line₃, v, line₄, behind, rfl, hgap, hgap', hread, hnew, heq⟩ :=
        exists_of_fieldsBehindKey heq
      rw [hkeyText] at hn hlen ⊢
      simp only [List.length_append, List.length_cons] at hn hlen
      obtain ⟨entry, rfl, hdenotes⟩ := sound (by omega) hread
      have hfield := Field.mk hkey hgap hgap' hdenotes
      have hseen := nodup_keys_concat v hseen hnew
      obtain ⟨after, hafter, ⟨rfl, rfl⟩ | ⟨next, line₅, rfl, hread⟩⟩ := exists_of_fieldsBehind heq
      · exact ⟨_, [(name, v)], rfl, by simp, .last hbefore hfield hafter, hseen⟩
      · simp only [List.length_append, List.length_cons] at hn hlen
        obtain ⟨used, more, rfl, rfl, hlisted, hnodup⟩ :=
          ih next.length (by omega) (by omega) hseen hread rfl
        exact ⟨_, (name, v) :: more, by simp, by simp, .more hbefore hfield hafter hlisted, hnodup⟩

theorem sound (n : ℕ) : Sound n := by
  induction n with
  | zero =>
    intro line line' cs rest v hn h
    rw [List.eq_nil_of_length_eq_zero (Nat.le_zero.1 hn), readValue_nil] at h
    cases h
  | succ n ih =>
    intro line line' cs rest v hn h
    cases cs with
    | nil => rw [readValue_nil] at h; cases h
    | cons c cs =>
      have hn : cs.length ≤ n := Nat.le_of_succ_le_succ hn
      rw [readValue_cons] at h
      split at h
      · rename_i hquote
        obtain ⟨⟨text, _, _⟩, hread, heq⟩ := map_eq_ok_iff.1 h
        cases heq
        obtain ⟨inside, rfl, hinside⟩ := quoted_of_stringTail hread
        exact ⟨c :: (inside ++ [c]), by simp, .string hquote hinside⟩
      split at h
      · rename_i hc
        obtain ⟨⟨fields, _, _⟩, hread, heq⟩ := map_eq_ok_iff.1 h
        cases heq
        have hnodup : (Fields.keys ([] : Fields Value)).Nodup := List.nodup_nil
        obtain ⟨inside, more, rfl, rfl, hlisted, hnodup⟩ := ih.readFields hn hnodup hread
        exact ⟨c :: (inside ++ ['\x7d']), by simp, hc ▸ .object hlisted hnodup⟩
      split at h
      · rename_i hc
        obtain ⟨⟨items, _, _⟩, hread, heq⟩ := bind_eq_ok_iff.1 h
        dsimp only at heq
        split at heq <;> cases heq
        rename_i hmixed
        obtain ⟨inside, rfl, hlisted, -⟩ := ih.readItems hn hread
        exact ⟨c :: (inside ++ [']']), by simp, hc ▸ .array hlisted (mixed?_eq_none_iff.1 hmixed)⟩
      split at h
      · obtain ⟨⟨_, _⟩, hread, heq⟩ := map_eq_ok_iff.1 h
        cases heq
        obtain ⟨used, hused, hnumeral, -⟩ := numeral_of_number hread
        exact ⟨used, hused, .number hnumeral⟩
      split at h
      · obtain ⟨⟨_, _⟩, hread, heq⟩ := map_eq_ok_iff.1 h
        cases heq
        obtain ⟨used, hused, htruth⟩ := truth_of_word hread
        exact ⟨used, hused, .truth htruth⟩
      · cases h

/-! ## What is in the grammar is read -/

/-- A value starts with a character of its own. -/
def startsValue (c : Char) : Bool :=
  isQuote c || c = '\x7b' || c = '[' || c = '-' || c = '+' || c = '.' || c.isDigit || c.isAlpha

theorem not_isBlank_of_startsValue {c : Char} (h : startsValue c = true) : isBlank c = false := by
  by_contra hb
  have := Text.forall_isBlank (p := fun c => !startsValue c) (by decide +kernel)
    (Bool.eq_true_of_not_eq_false hb)
  simp [h] at this

theorem Numeral.exists_cons {used : List Char} {v : Value} (h : Numeral used v) :
    ∃ c cs, used = c :: cs ∧ (c = '-' ∨ c = '+' ∨ c = '.' ∨ c.isDigit = true) := by
  have hdigits {digits : List Char} (h : Digits digits) (hne : digits ≠ []) :
      ∃ c cs, digits = c :: cs ∧ c.isDigit = true := by
    obtain ⟨c, cs, rfl⟩ := List.exists_cons_of_ne_nil hne
    exact ⟨c, cs, rfl, h c List.mem_cons_self⟩
  cases h with
  | integer hsign hd hne =>
    obtain ⟨c, cs, rfl, hc⟩ := hdigits hd hne
    rcases hsign with rfl | rfl | rfl
    · exact ⟨c, cs, rfl, by simp [hc]⟩
    · exact ⟨_, _, rfl, by simp⟩
    · exact ⟨_, _, rfl, by simp⟩
  | @float sign whole fraction _ hsign hw =>
    rcases hsign with rfl | rfl | rfl
    · cases whole with
      | nil => exact ⟨_, _, rfl, by simp⟩
      | cons c cs => exact ⟨c, _, rfl, by simp [hw c List.mem_cons_self]⟩
    · exact ⟨_, _, rfl, by simp⟩
    · exact ⟨_, _, rfl, by simp⟩

theorem Denotes.exists_cons {used : List Char} {v : Value} (h : Denotes used v) :
    ∃ c cs, used = c :: cs ∧ startsValue c = true := by
  cases h with
  | string hquote => exact ⟨_, _, rfl, by simp [startsValue, hquote]⟩
  | number h =>
    obtain ⟨c, cs, rfl, hc⟩ := h.exists_cons
    exact ⟨c, cs, rfl, by rcases hc with hc | hc | hc | hc <;> simp [startsValue, hc]⟩
  | truth h =>
    cases used with
    | nil => cases h <;> contradiction
    | cons c cs => exact ⟨c, cs, rfl, by simp [startsValue, h.isAlpha c List.mem_cons_self]⟩
  | object => exact ⟨_, _, rfl, by decide⟩
  | array => exact ⟨_, _, rfl, by decide⟩

theorem Key.exists_cons {used : List Char} {name : String} (h : Key used name) :
    ∃ c cs, used = c :: cs ∧ isBlank c = false ∧ c ≠ '\x7d' := by
  cases h with
  | @quoted quote _ _ hquote =>
    refine ⟨_, _, rfl, not_isBlank_of_startsValue (by simp [startsValue, hquote]), ?_⟩
    rintro rfl
    exact absurd hquote (by decide)
  | @word c cs hfirst =>
    have hword : isWordChar c = true := by
      rcases hfirst with h | rfl
      · simp [isWordChar, h]
      · decide
    refine ⟨c, cs, rfl, ?_, ?_⟩
    · by_contra hb
      rw [isWordChar_of_isBlank (Bool.eq_true_of_not_eq_false hb)] at hword
      cases hword
    · rintro rfl
      exact absurd hword (by decide)

theorem starts_cons {p : Char → Bool} {c : Char} (h : p c = true) : Starts p (c :: cs) := by
  rintro _ ⟨⟩; exact h

/-- A value does not start with white space. -/
theorem starts_value {c : Char} (h : startsValue c = true) : Starts (!isBlank ·) (c :: cs) :=
  starts_cons (by rw [not_isBlank_of_startsValue h]; rfl)

theorem Denotes.starts {used : List Char} {v : Value} (h : Denotes used v) (rest : List Char) :
    Starts (!isBlank ·) (used ++ rest) := by
  obtain ⟨c, cs, rfl, hc⟩ := h.exists_cons
  exact starts_value hc

/-- White space and what may follow a value may follow a value. -/
theorem starts_endsNumber {blanks : List Char} (hblanks : Blanks blanks)
    (hcs : Starts endsNumber cs) : Starts endsNumber (blanks ++ cs) := by
  cases blanks with
  | nil => exact hcs
  | cons b blanks =>
    exact starts_cons (by simp [endsNumber, hblanks b List.mem_cons_self])

/-- Literals of length `n` at most are read, if something follows that may follow a value. -/
def Complete (n : ℕ) : Prop := ∀ {used rest : List Char} {v : Value}, used.length ≤ n →
  Denotes used v → Starts endsNumber rest → ∀ line, ∃ line',
    readValue line (used ++ rest) = .ok (v, line', rest)

section
variable (hclose : close = none ∨ close = some ']') (hrest : close = none → rest = [])
include hclose hrest

theorem starts_close : Starts (!isBlank ·) (close.toList ++ rest) ∧
    Starts endsNumber (close.toList ++ rest) := by
  rcases hclose with rfl | rfl
  · rw [hrest rfl]; exact ⟨nofun, nofun⟩
  · exact ⟨starts_cons (by decide), starts_cons (by decide)⟩

/-- A list of items may have none. -/
theorem readItems_none {blanks : List Char} (hblanks : Blanks blanks) (line : Nat) :
    ∃ line', readItems close line (blanks ++ (close.toList ++ rest)) = .ok ([], line', rest) := by
  obtain ⟨line', hskip⟩ := skipBlanks_append line hblanks (starts_close hclose hrest).1
  refine ⟨line', ?_⟩
  rw [readItems_eq, hskip]
  rcases hclose with rfl | rfl
  · rw [hrest rfl]; rfl
  · rfl

/-- A list of items ends with the closing character. -/
theorem itemsBehind_last {after : List Char} (hafter : Blanks after) (v : Value) (line : Nat) :
    ∃ line', itemsBehind close v line (after ++ (close.toList ++ rest)) =
      .ok ([v], line', rest) := by
  obtain ⟨line', hskip⟩ := skipBlanks_append line hafter (starts_close hclose hrest).1
  refine ⟨line', ?_⟩
  rw [itemsBehind, hskip]
  rcases hclose with rfl | rfl
  · rw [hrest rfl]; rfl
  · rfl

end

/-- A list of items goes on behind a comma. -/
theorem itemsBehind_comma {after : List Char} (hafter : Blanks after) (v : Value) (line : Nat)
    (cs : List Char) : ∃ line', itemsBehind close v line (after ++ ',' :: cs) =
      (readItems close line' cs).map fun (vs, behind) => (v :: vs, behind) := by
  have hcomma : Starts (!isBlank ·) (',' :: cs) := starts_cons (by decide)
  obtain ⟨line', hskip⟩ := skipBlanks_append line hafter hcomma
  refine ⟨line', ?_⟩
  rw [itemsBehind, hskip]
  dsimp only
  rw [if_pos rfl]

/-- An item is read from its first character on. -/
theorem readItems_item (hclose : close = none ∨ close = some ']') {before : List Char}
    (hbefore : Blanks before) {c : Char} (hc : startsValue c = true) (cs : List Char) (line : Nat) :
    ∃ line', readItems close line (before ++ c :: cs) =
      (readValue line' (c :: cs)).bind fun (v, line, rest) => itemsBehind close v line rest := by
  have hstart : Starts (!isBlank ·) (c :: cs) := starts_value hc
  have hne : ¬ some c = close := by
    rcases hclose with rfl | rfl
    · nofun
    · rintro ⟨⟩; exact absurd hc (by decide)
  obtain ⟨line', hskip⟩ := skipBlanks_append line hbefore hstart
  refine ⟨line', ?_⟩
  rw [readItems_eq, hskip]
  dsimp only
  rw [if_neg hne]

/-- An item is read, and then what stands behind it. -/
theorem Complete.readItems_item {n : ℕ} (complete : Complete n)
    (hclose : close = none ∨ close = some ']') {before entry tail : List Char} {v : Value}
    (hbefore : Blanks before) (hentry : Denotes entry v) (hle : entry.length ≤ n)
    (htail : Starts endsNumber tail) (line : Nat) :
    ∃ line', Grammar.readItems close line (before ++ (entry ++ tail)) =
      itemsBehind close v line' tail := by
  obtain ⟨c, cs, hcons, hc⟩ := hentry.exists_cons
  obtain ⟨line₁, hitem⟩ := Grammar.readItems_item hclose hbefore hc (cs ++ tail) line
  obtain ⟨line₂, hread⟩ := complete hle hentry htail line₁
  refine ⟨line₂, ?_⟩
  rw [hcons, List.cons_append] at hread ⊢
  rw [hitem, hread]
  rfl

theorem Complete.readItems {n : ℕ} (complete : Complete n)
    (hclose : close = none ∨ close = some ']') (hrest : close = none → rest = [])
    {used : List Char} {vs : List Value} (hn : used.length ≤ n) (h : Listed Denotes used vs)
    (line : Nat) :
    ∃ line', readItems close line (used ++ (close.toList ++ rest)) = .ok (vs, line', rest) := by
  induction h generalizing line with
  | none hblanks => exact readItems_none hclose hrest hblanks line
  | @last before entry after v hbefore hentry hafter =>
    simp only [List.length_append] at hn
    have htail := starts_endsNumber hafter (starts_close hclose hrest).2
    obtain ⟨line₁, hread⟩ := complete.readItems_item hclose hbefore hentry (by omega) htail line
    obtain ⟨line', hlast⟩ := itemsBehind_last hclose hrest hafter v line₁
    exact ⟨line', by rw [List.append_assoc, List.append_assoc, hread, hlast]⟩
  | @more before entry after cs v vs hbefore hentry hafter _ ih =>
    simp only [List.length_append, List.length_cons] at hn
    have hcomma : Starts endsNumber (',' :: (cs ++ (close.toList ++ rest))) :=
      starts_cons (by decide)
    have htail := starts_endsNumber hafter hcomma
    obtain ⟨line₁, hread⟩ := complete.readItems_item hclose hbefore hentry (by omega) htail line
    obtain ⟨line₂, hbehind⟩ := itemsBehind_comma hafter v line₁ (cs ++ (close.toList ++ rest))
    obtain ⟨line₃, hmore⟩ := ih (by omega) line₂
    refine ⟨line₃, ?_⟩
    have hassoc : before ++ entry ++ after ++ ',' :: cs ++ (close.toList ++ rest) =
        before ++ (entry ++ (after ++ ',' :: (cs ++ (close.toList ++ rest)))) := by simp
    rw [hassoc, hread, hbehind, hmore]
    rfl

/-- A list of fields goes on behind a comma and ends with the closing bracket. -/
theorem fieldsBehind_comma {after : List Char} (hafter : Blanks after) (seen : Fields Value)
    (line : Nat) (cs : List Char) :
    ∃ line', fieldsBehind seen line (after ++ ',' :: cs) = readFields seen line' cs := by
  have hcomma : Starts (!isBlank ·) (',' :: cs) := starts_cons (by decide)
  obtain ⟨line', hskip⟩ := skipBlanks_append line hafter hcomma
  refine ⟨line', ?_⟩
  rw [fieldsBehind, hskip]
  dsimp only
  rw [if_pos rfl]

theorem fieldsBehind_last {after : List Char} (hafter : Blanks after) (seen : Fields Value)
    (line : Nat) (rest : List Char) :
    ∃ line', fieldsBehind seen line (after ++ '\x7d' :: rest) = .ok (seen, line', rest) := by
  have hclose : Starts (!isBlank ·) ('\x7d' :: rest) := starts_cons (by decide)
  obtain ⟨line', hskip⟩ := skipBlanks_append line hafter hclose
  exact ⟨line', by rw [fieldsBehind, hskip]; rfl⟩

/-- A field is read from the colon on, and then what stands behind it. -/
theorem Complete.fieldsBehindKey {n : ℕ} (complete : Complete n) {gap gap' cs tail : List Char}
    {name : String} {v : Value} (hgap : Blanks gap) (hgap' : Blanks gap') (hvalue : Denotes cs v)
    (hle : cs.length ≤ n) (hnew : name ∉ seen.keys) (htail : Starts endsNumber tail) (line : Nat) :
    ∃ line', fieldsBehindKey seen name line (gap ++ ':' :: (gap' ++ (cs ++ tail))) =
      fieldsBehind (seen ++ [(name, v)]) line' tail := by
  have hcolon : Starts (!isBlank ·) (':' :: (gap' ++ (cs ++ tail))) := starts_cons (by decide)
  obtain ⟨line₁, hskip₁⟩ := skipBlanks_append line hgap hcolon
  obtain ⟨line₂, hskip₂⟩ := skipBlanks_append line₁ hgap' (hvalue.starts tail)
  obtain ⟨line₃, hread⟩ := complete hle hvalue htail line₂
  refine ⟨line₃, ?_⟩
  rw [Grammar.fieldsBehindKey, hskip₁]
  show (readValue (skipBlanks line₁ _).1 (skipBlanks line₁ _).2).bind _ = _
  rw [hskip₂, hread]
  show (if seen.contains name = true then _ else _) = _
  rw [if_neg (by rw [contains_iff]; exact hnew)]

/-- A field is read, and then what stands behind it. -/
theorem Complete.readFields_field {n : ℕ} (complete : Complete n) {before entry tail : List Char}
    {name : String} {v : Value} (hbefore : Blanks before) (hentry : Field Denotes entry (name, v))
    (hle : entry.length ≤ n) (hnew : name ∉ seen.keys) (htail : Starts endsNumber tail)
    (line : Nat) : ∃ line', Grammar.readFields seen line (before ++ (entry ++ tail)) =
      fieldsBehind (seen ++ [(name, v)]) line' tail := by
  cases hentry with
  | @mk key _ gap gap' cs _ hkey hgap hgap' hvalue =>
    simp only [List.length_append, List.length_cons] at hle
    obtain ⟨k, ks, rfl, hk, hne⟩ := hkey.exists_cons
    have hassoc : k :: ks ++ gap ++ ':' :: (gap' ++ cs) ++ tail =
        k :: (ks ++ (gap ++ ':' :: (gap' ++ (cs ++ tail)))) := by simp
    have hstart : Starts (!isBlank ·) (k :: (ks ++ (gap ++ ':' :: (gap' ++ (cs ++ tail))))) :=
      starts_cons (by rw [hk]; rfl)
    have hword : Starts (!isWordChar ·) (gap ++ ':' :: (gap' ++ (cs ++ tail))) := by
      cases gap with
      | nil => exact starts_cons (by decide)
      | cons b gap =>
        exact starts_cons (by rw [isWordChar_of_isBlank (hgap b List.mem_cons_self)]; rfl)
    obtain ⟨line₁, hskip⟩ := skipBlanks_append line hbefore hstart
    obtain ⟨line₂, hread⟩ := key_of_grammar hkey hword line₁
    obtain ⟨line₃, hbehind⟩ :=
      complete.fieldsBehindKey hgap hgap' hvalue (by omega) hnew htail line₂
    refine ⟨line₃, ?_⟩
    rw [hassoc, readFields_eq, hskip]
    dsimp only
    rw [if_neg hne, hread]
    exact hbehind

theorem Complete.readFields {n : ℕ} (complete : Complete n) (seen : Fields Value)
    {used : List Char} {fs : Fields Value} (hn : used.length ≤ n)
    (h : Listed (Field Denotes) used fs) (hnodup : (Fields.keys (seen ++ fs)).Nodup) (line : Nat)
    (rest : List Char) :
    ∃ line', readFields seen line (used ++ '\x7d' :: rest) = .ok (seen ++ fs, line', rest) := by
  have hclose : Starts endsNumber ('\x7d' :: rest) := starts_cons (by decide)
  induction h generalizing seen line with
  | none hblanks =>
    have hstart : Starts (!isBlank ·) ('\x7d' :: rest) := starts_cons (by decide)
    obtain ⟨line', hskip⟩ := skipBlanks_append line hblanks hstart
    exact ⟨line', by rw [readFields_eq, hskip, List.append_nil]; rfl⟩
  | @last before entry after pair hbefore hentry hafter =>
    simp only [List.length_append] at hn
    obtain ⟨line₁, hread⟩ := complete.readFields_field hbefore hentry (by omega)
      (not_mem_keys hnodup) (starts_endsNumber hafter hclose) line
    obtain ⟨line₂, hlast⟩ := fieldsBehind_last hafter (seen ++ [pair]) line₁ rest
    exact ⟨line₂, by rw [List.append_assoc, List.append_assoc, hread, hlast]⟩
  | @more before entry after cs pair fs hbefore hentry hafter _ ih =>
    simp only [List.length_append, List.length_cons] at hn
    have hcomma : Starts endsNumber (',' :: (cs ++ '\x7d' :: rest)) := starts_cons (by decide)
    obtain ⟨line₁, hread⟩ := complete.readFields_field hbefore hentry (by omega)
      (not_mem_keys hnodup) (starts_endsNumber hafter hcomma) line
    obtain ⟨line₂, hbehind⟩ :=
      fieldsBehind_comma hafter (seen ++ [pair]) line₁ (cs ++ '\x7d' :: rest)
    rw [List.append_cons] at hnodup
    obtain ⟨line₃, hmore⟩ := ih (seen ++ [pair]) (by omega) hnodup line₂
    refine ⟨line₃, ?_⟩
    have hassoc : before ++ entry ++ after ++ ',' :: cs ++ '\x7d' :: rest =
        before ++ (entry ++ (after ++ ',' :: (cs ++ '\x7d' :: rest))) := by simp
    rw [hassoc, hread, hbehind, hmore, List.append_assoc, List.singleton_append]

theorem complete (n : ℕ) : Complete n := by
  induction n with
  | zero =>
    intro used rest v hn h
    obtain ⟨c, cs, rfl, -⟩ := h.exists_cons
    cases hn
  | succ n ih =>
    intro used rest v hn h hrest line
    cases h with
    | @string quote cs text hquote hinside =>
      obtain ⟨line', hread⟩ := stringTail_of_quoted hquote hinside line line rest
      refine ⟨line', ?_⟩
      rw [List.cons_append, readValue_cons, if_pos hquote, List.append_assoc,
        List.singleton_append, hread]
      rfl
    | number h =>
      refine ⟨line, ?_⟩
      have hread := number_of_numeral h hrest line
      obtain ⟨c, cs, rfl, hc⟩ := h.exists_cons
      rw [List.cons_append] at hread ⊢
      rw [readValue_number hc, hread]
      rfl
    | truth h =>
      refine ⟨line, ?_⟩
      cases used with
      | nil => cases h <;> contradiction
      | cons c cs =>
        have hread := word_of_truth h hrest line
        rw [List.cons_append, readValue_word (h.isAlpha c List.mem_cons_self), hread]
        rfl
    | @object cs fields hlisted hnodup =>
      obtain ⟨line', hread⟩ := ih.readFields [] (by simp at hn; omega) hlisted hnodup line rest
      refine ⟨line', ?_⟩
      rw [List.cons_append, readValue_cons, if_neg (by decide), if_pos rfl, List.append_assoc,
        List.singleton_append, hread]
      rfl
    | @array cs items hlisted halike =>
      have hrest : some ']' = none → rest = [] := fun h => absurd h (Option.some_ne_none _)
      obtain ⟨line', hread⟩ := ih.readItems (.inr rfl) hrest (by simp at hn; omega) hlisted line
      rw [Option.toList_some] at hread
      refine ⟨line', ?_⟩
      rw [List.cons_append, readValue_cons, if_neg (by decide), if_neg (by decide), if_pos rfl,
        List.append_assoc, hread]
      simp only [Except.bind, mixed?_eq_none_iff.2 halike]

end CourseSite.Directive.Grammar

namespace CourseSite.Directive

open Attempt (map_eq_ok_iff)
open Grammar

variable {line : Nat} {raw : List Char} {values : List Value}

theorem parseArguments_eq (line : Nat) (raw : List Char) :
    parseArguments line raw = (readItems none line raw).map (·.1) := by
  rw [parseArguments, readItems]
  cases Literal.items none line raw <;> rfl

/-- An argument list that is read is in the grammar. -/
theorem listed_of_parseArguments (h : parseArguments line raw = .ok values) :
    Listed Denotes raw values := by
  rw [parseArguments_eq, map_eq_ok_iff] at h
  obtain ⟨⟨values, line', rest⟩, hread, rfl⟩ := h
  obtain ⟨used, rfl, hlisted, hrest⟩ := Sound.readItems (sound raw.length) le_rfl hread
  rw [hrest rfl]
  simpa using hlisted

/-- An argument list of the grammar is read, on whatever line it starts. -/
theorem parseArguments_of_listed (h : Listed Denotes raw values) (line : Nat) :
    parseArguments line raw = .ok values := by
  have hrest : (none : Option Char) = none → ([] : List Char) = [] := fun _ => rfl
  obtain ⟨line', hread⟩ := Complete.readItems (complete raw.length) (.inl rfl) hrest le_rfl h line
  simp only [Option.toList_none, List.append_nil] at hread
  rw [parseArguments_eq, hread]
  rfl

/-- **What an argument list is.** A text is read as an argument list just if the grammar has
    it, with the values that the grammar gives it. -/
theorem parseArguments_eq_ok_iff (line : Nat) (raw : List Char) (values : List Value) :
    parseArguments line raw = .ok values ↔ Listed Denotes raw values :=
  ⟨listed_of_parseArguments, fun h => parseArguments_of_listed h line⟩

end CourseSite.Directive
