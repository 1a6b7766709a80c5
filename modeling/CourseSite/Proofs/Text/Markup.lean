/-
  Markup as it is read: its tags, and the text behind each of them.

  * `Element.markup`: a tag and the text behind it as they are written.
  * `elements`: the tags of a text; `elements_flatMap_markup`: what was written is what is read.
  * `radios`: the radio buttons among the tags, each with its group, its value and its label.
-/
import Mathlib.Data.List.Basic

namespace CourseSite.Html

/-! ## Tags -/

/-- A tag, and the text behind it up to the next one. -/
structure Element where
  tag : String
  text : String
deriving DecidableEq

namespace Element

/-- What stands behind the sign that starts a tag. -/
def chunk (element : Element) : List Char := element.tag.toList ++ '>' :: element.text.toList

/-- The tag and the text as they are written. -/
def markup (element : Element) : List Char := '<' :: element.chunk

/-- The tag and the text that are written behind the sign that starts a tag. -/
def ofChunk (cs : List Char) : Element :=
  ⟨.ofList (cs.takeWhile (· ≠ '>')), .ofList (cs.dropWhile (· ≠ '>')).tail⟩

/-- The tag ends where it is said to end, and the text starts no other one. -/
structure IsPlain (element : Element) : Prop where
  tag : ∀ c ∈ element.tag.toList, c ≠ '<' ∧ c ≠ '>'
  text : '<' ∉ element.text.toList

theorem ofChunk_chunk {element : Element} (h : element.IsPlain) : ofChunk element.chunk = element := by
  have htag : ∀ c ∈ element.tag.toList, decide (c ≠ '>') = true := fun c hc =>
    decide_eq_true (h.tag c hc).2
  have htake : element.chunk.takeWhile (fun c => decide (c ≠ '>')) = element.tag.toList := by
    rw [chunk, List.takeWhile_append_of_pos htag, List.takeWhile_cons_of_neg (by simp),
      List.append_nil]
  have hdrop : element.chunk.dropWhile (fun c => decide (c ≠ '>')) = '>' :: element.text.toList := by
    rw [chunk, List.dropWhile_append_of_pos htag, List.dropWhile_cons_of_neg (by simp)]
  rw [ofChunk, htake, hdrop, List.tail_cons, String.ofList_toList, String.ofList_toList]

theorem IsPlain.not_mem_chunk {element : Element} (h : element.IsPlain) : '<' ∉ element.chunk := by
  rw [chunk, List.mem_append, List.mem_cons]
  rintro (hmem | hmem | hmem)
  · exact (h.tag _ hmem).1 rfl
  · cases hmem
  · exact h.text hmem

end Element

/-- The tags of a text in order. -/
def elements (text : String) : List Element := (text.toList.splitOn '<').tail.map Element.ofChunk

theorem flatMap_markup (es : List Element) :
    es.flatMap Element.markup = ['<'].intercalate ([] :: es.map Element.chunk) := by
  induction es with
  | nil => rfl
  | cons e es ih =>
    rw [List.flatMap_cons, ih, List.map_cons, Element.markup]
    cases es <;> simp [List.intercalate]

/-- Tags that end where they are said to end are read as they were written. -/
theorem elements_flatMap_markup {text : String} {es : List Element}
    (htext : text.toList = es.flatMap Element.markup) (h : ∀ e ∈ es, e.IsPlain) :
    elements text = es := by
  have hchunks : ∀ cs ∈ [] :: es.map Element.chunk, '<' ∉ cs := by
    simp only [List.mem_cons, List.mem_map, forall_eq_or_imp, forall_exists_index, and_imp]
    refine ⟨List.not_mem_nil, ?_⟩
    rintro _ e he rfl
    exact (h e he).not_mem_chunk
  rw [elements, htext, flatMap_markup, List.splitOn_intercalate _ hchunks (List.cons_ne_nil _ _),
    List.tail_cons, List.map_map]
  exact (List.map_congr_left fun e he => Element.ofChunk_chunk (h e he)).trans (List.map_id es)

/-! ## Radio buttons -/

/-- A radio button: its group, its value, and the text behind it. -/
structure Radio where
  group : String
  value : String
  label : String
deriving DecidableEq

/-- The quoted text behind a key in a tag that is split at its quotation marks. -/
def quoted (key : String) : List String → String
  | first :: value :: parts => if first = key then value else quoted key parts
  | _ => ""

/-- The radio button of an element. -/
def Element.radio? (element : Element) : Option Radio :=
  let parts := (element.tag.toList.splitOn '"').map String.ofList
  if quoted "input type=" parts = "radio" then
    some ⟨quoted " name=" parts, quoted " value=" parts, element.text⟩
  else none

/-- The radio buttons of a text in order. -/
def radios (text : String) : List Radio := (elements text).filterMap Element.radio?

end CourseSite.Html
