/-
  Escaped text read back.

  * `entities`, `signs`: the five entities that text is escaped with, and the signs that start or
    end a tag or a quotation.
  * `decode`: every entity replaced by its character, from the left.
  * `decode_escape`: this gives back what was escaped, whatever it was; so escaped texts are as
    different as the texts are (`escape_injective`).
  * `not_mem_escape`, `entity_of_flatMap`: no sign is left in escaped text, and every `&` there
    starts an entity.
  * `escape_append`: a text is escaped piece by piece.
-/
import CourseSite.Text.Html
import Mathlib.Data.List.Basic

namespace CourseSite.Html

/-- The entities that text is escaped with. -/
def entities : List String := ["&amp;", "&lt;", "&gt;", "&quot;", "&#x27;"]

/-- The signs that start or end a tag or a quotation. -/
def signs : List Char := ['<', '>', '"', '\'']

/-- The characters with every entity replaced, from the left. -/
def decodeChars : List Char → List Char
  | '&' :: 'a' :: 'm' :: 'p' :: ';' :: cs => '&' :: decodeChars cs
  | '&' :: 'l' :: 't' :: ';' :: cs => '<' :: decodeChars cs
  | '&' :: 'g' :: 't' :: ';' :: cs => '>' :: decodeChars cs
  | '&' :: 'q' :: 'u' :: 'o' :: 't' :: ';' :: cs => '"' :: decodeChars cs
  | '&' :: '#' :: 'x' :: '2' :: '7' :: ';' :: cs => '\'' :: decodeChars cs
  | c :: cs => c :: decodeChars cs
  | [] => []

/-- The text with every entity replaced, from the left. -/
def decode (text : String) : String := .ofList (decodeChars text.toList)

/-- What stands for a text: no sign is left, every `&` starts an entity, and with its entities
    replaced it is the text again. -/
structure IsEscaped (text escaped : String) : Prop where
  plain : ∀ sign ∈ signs, sign ∉ escaped.toList
  entity : ∀ before behind, escaped.toList = before ++ '&' :: behind →
    ∃ entity ∈ entities, entity.toList <+: '&' :: behind
  decoded : decode escaped = text

/-! ## One character -/

/-- A character is escaped by an entity, or is left alone as it is no sign. -/
theorem escapeChar_cases (c : Char) :
    (∃ entity ∈ entities, escapeChar c = entity.toList ∧
      ∀ cs, decodeChars (entity.toList ++ cs) = c :: decodeChars cs) ∨
    (escapeChar c = [c] ∧ c ≠ '&' ∧ c ∉ signs) := by
  unfold escapeChar
  split
  · exact .inl ⟨"&amp;", by simp [entities], by simp, fun cs => by simp [decodeChars]⟩
  · exact .inl ⟨"&lt;", by simp [entities], by simp, fun cs => by simp [decodeChars]⟩
  · exact .inl ⟨"&gt;", by simp [entities], by simp, fun cs => by simp [decodeChars]⟩
  · exact .inl ⟨"&quot;", by simp [entities], by simp, fun cs => by simp [decodeChars]⟩
  · exact .inl ⟨"&#x27;", by simp [entities], by simp, fun cs => by simp [decodeChars]⟩
  case h_6 hamp hlt hgt hquot hapos =>
    refine .inr ⟨rfl, hamp, ?_⟩
    simp only [signs, List.mem_cons, List.not_mem_nil, or_false, not_or]
    exact ⟨hlt, hgt, hquot, hapos⟩

/-- An entity starts with its only `&`, and holds no sign. -/
theorem entity_eq_cons {entity : String} (h : entity ∈ entities) :
    ∃ name, entity.toList = '&' :: name ∧ '&' ∉ name ∧ ∀ sign ∈ signs, sign ∉ entity.toList := by
  have hall : ∀ entity ∈ entities, ∃ name, entity.toList = '&' :: name ∧ '&' ∉ name ∧
      ∀ sign ∈ signs, sign ∉ entity.toList := by
    simp [entities, signs]
  exact hall entity h

theorem decodeChars_cons {c : Char} (h : c ≠ '&') (cs : List Char) :
    decodeChars (c :: cs) = c :: decodeChars cs := by
  rw [decodeChars] <;> rintro _ rfl <;> exact absurd rfl h

theorem decodeChars_escapeChar (c : Char) (cs : List Char) :
    decodeChars (escapeChar c ++ cs) = c :: decodeChars cs := by
  rcases escapeChar_cases c with ⟨entity, -, hescape, hdecode⟩ | ⟨hescape, hamp, -⟩
  · rw [hescape, hdecode]
  · rw [hescape, List.singleton_append, decodeChars_cons hamp]

/-- What is escaped as a character starts with its only `&`, as an entity, if it has one. -/
theorem escapeChar_eq_append {c : Char} {before behind : List Char}
    (h : escapeChar c = before ++ '&' :: behind) :
    before = [] ∧ ∃ entity ∈ entities, entity.toList = '&' :: behind := by
  rcases escapeChar_cases c with ⟨entity, hentity, hescape, -⟩ | ⟨hescape, hamp, -⟩
  · obtain ⟨name, hname, hfresh, -⟩ := entity_eq_cons hentity
    rw [hescape, hname] at h
    cases before with
    | nil => exact ⟨rfl, entity, hentity, by rw [hname, h, List.nil_append]⟩
    | cons _ before =>
      obtain ⟨-, hbefore⟩ := List.cons_eq_cons.1 h
      exact absurd (hbefore ▸ List.mem_append_right before List.mem_cons_self) hfresh
  · rw [hescape] at h
    have hmem : '&' ∈ [c] := h ▸ List.mem_append_right before List.mem_cons_self
    exact absurd (List.mem_singleton.1 hmem).symm hamp

/-! ## Texts -/

theorem toList_escape (text : String) : (escape text).toList = text.toList.flatMap escapeChar :=
  String.toList_ofList

/-- Text is escaped piece by piece. -/
theorem escape_append (text behind : String) :
    escape (text ++ behind) = escape text ++ escape behind := by
  rw [← String.toList_inj, String.toList_append, toList_escape, toList_escape, toList_escape,
    String.toList_append, List.flatMap_append]

/-- **Nothing is lost by escaping**: the entities are replaced from the left by what they stand for,
    also where the text had entities of its own. -/
theorem decodeChars_flatMap (cs : List Char) : decodeChars (cs.flatMap escapeChar) = cs := by
  induction cs with
  | nil => simp [decodeChars]
  | cons c cs ih => rw [List.flatMap_cons, decodeChars_escapeChar, ih]

theorem decode_escape (text : String) : decode (escape text) = text := by
  rw [decode, toList_escape, decodeChars_flatMap, String.ofList_toList]

theorem escape_injective : Function.Injective escape :=
  Function.LeftInverse.injective decode_escape

/-- No sign is left in escaped text. -/
theorem not_mem_escape {sign : Char} (hsign : sign ∈ signs) (text : String) :
    sign ∉ (escape text).toList := by
  rw [toList_escape, List.mem_flatMap]
  rintro ⟨c, -, hc⟩
  rcases escapeChar_cases c with ⟨entity, hentity, hescape, -⟩ | ⟨hescape, -, hplain⟩
  · obtain ⟨-, -, -, hfree⟩ := entity_eq_cons hentity
    exact hfree sign hsign (hescape ▸ hc)
  · rw [hescape, List.mem_singleton] at hc
    exact hplain (hc ▸ hsign)

/-- Every `&` of escaped text starts an entity. -/
theorem entity_of_flatMap {cs before behind : List Char}
    (h : cs.flatMap escapeChar = before ++ '&' :: behind) :
    ∃ entity ∈ entities, entity.toList <+: '&' :: behind := by
  induction cs generalizing before with
  | nil => simp at h
  | cons c cs ih =>
    rw [List.flatMap_cons] at h
    -- the sign stands behind what the first character is escaped as, or in it
    rcases List.append_eq_append_iff.1 h with ⟨between, -, hrest⟩ | ⟨within, hfirst, hbehind⟩
    · exact ih hrest
    · cases within with
      | nil => exact @ih [] hbehind.symm
      | cons sign within =>
        obtain ⟨rfl, rfl⟩ := List.cons_eq_cons.1 hbehind
        obtain ⟨-, entity, hentity, hname⟩ := escapeChar_eq_append hfirst
        exact ⟨entity, hentity, hname ▸ List.prefix_append _ _⟩

theorem isEscaped_escape (text : String) : IsEscaped text (escape text) where
  plain _ hsign := not_mem_escape hsign text
  entity _ _ h := entity_of_flatMap (toList_escape text ▸ h)
  decoded := decode_escape text

end CourseSite.Html
