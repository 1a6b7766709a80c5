/-
  The quizzes of a page and the groups of their radio buttons.

  * `radios_renderQuiz`: the block of a quiz has one radio button for each answer, in order and
    numbered from zero, and all of them in one group, which is named for the line of the call.
  * `Scattered`: the blocks stand in a text one behind the other, whatever is between them.
  * `quizCalls`, `IsBlock`: the quizzes that a document calls, and what a call becomes.
  * `shared_groups_of_expand`: on one page, whether of its own or of several documents, two quizzes
    share a group just if they stand on lines of the same number.
  * `quizzes_in_one_group`: so two quizzes on one line do, and those on the same lines of two pages.
-/
import CourseSite.Proofs.Directive.Refusal
import CourseSite.Proofs.Text.Entities
import CourseSite.Proofs.Text.Markup
import CourseSite.Site.Barrier
import Mathlib.Data.List.Forall2

namespace CourseSite

open Html (Element Radio radios elements elements_flatMap_markup not_mem_escape quoted)

namespace Directive

open Builtin (Answer renderAnswer renderQuiz)

/-! ## The block of a quiz -/

/-- The name of the group of a quiz on a line. -/
def quizGroup (line : ℕ) : String := s!"quiz-{line}"

theorem quizGroup_inj {line line' : ℕ} : quizGroup line = quizGroup line' ↔ line = line' := by
  refine ⟨fun h => ?_, fun h => h ▸ rfl⟩
  have hrepr : "quiz-" ++ line.repr = "quiz-" ++ line'.repr := h
  rw [String.append_right_inj] at hrepr
  exact Nat.repr_injective hrepr

/-- The radio button of an answer. -/
def Builtin.Answer.input (group : String) (index : ℕ) (answer : Answer) : Element :=
  ⟨"\"".intercalate ["input type=", "radio", " name=", group, " value=", toString index,
    " data-correct=", if answer.correct then "true" else "false", ""],
    " " ++ Html.escape answer.text⟩

/-- The list item of an answer. -/
def Builtin.Answer.elements (group : String) (index : ℕ) (answer : Answer) : List Element :=
  [⟨"li", ""⟩, ⟨"label", ""⟩, answer.input group index, ⟨"/label", ""⟩, ⟨"/li", "\n"⟩]

/-- The tags of a quiz. -/
def quizElements (line : ℕ) (question : String) (answers : List Answer) : List Element :=
  [⟨"div class=\"quiz\"", "\n"⟩, ⟨"p", Html.escape question⟩, ⟨"/p", "\n"⟩, ⟨"ul", "\n"⟩] ++
    (answers.mapIdx fun index answer => answer.elements (quizGroup line) index).flatten ++
    [⟨"/ul", "\n"⟩, ⟨"/div", ""⟩]

theorem toList_renderAnswer (group : String) (index : ℕ) (answer : Answer) :
    (renderAnswer group index answer).toList ++ ['\n'] =
      '\n' :: (answer.elements group index).flatMap Element.markup := by
  unfold renderAnswer Answer.elements Answer.input
  generalize toString index = value
  generalize (if answer.correct then "true" else "false") = correct
  generalize Html.escape answer.text = label
  simp [Element.markup, Element.chunk]

/-- Line breaks between items are those before or those behind each of them. -/
theorem toList_join_mapIdx {write : ℕ → Answer → String} {elements : ℕ → Answer → List Element}
    (h : ∀ index answer, (write index answer).toList ++ ['\n'] =
      '\n' :: (elements index answer).flatMap Element.markup) (answers : List Answer) :
    (String.join (answers.mapIdx write)).toList ++ ['\n'] =
      '\n' :: (answers.mapIdx elements).flatten.flatMap Element.markup := by
  induction answers generalizing write elements with
  | nil => rfl
  | cons answer answers ih =>
    have ih := ih fun index => h (index + 1)
    rw [List.mapIdx_cons, List.mapIdx_cons, String.join_cons, String.toList_append,
      List.append_assoc, ih, List.append_cons, h, List.flatten_cons, List.flatMap_append]
    rfl

/-- The block of a quiz is written as its tags are. -/
theorem toList_renderQuiz (line : ℕ) (question : String) (answers : List Answer) :
    (renderQuiz line question answers).toList =
      (quizElements line question answers).flatMap Element.markup := by
  have hitems := toList_join_mapIdx (toList_renderAnswer (quizGroup line)) answers
  unfold renderQuiz quizElements
  generalize Html.escape question = question
  change (_ ++ String.join (answers.mapIdx (renderAnswer (quizGroup line))) ++ _).toList = _
  generalize String.join (answers.mapIdx (renderAnswer (quizGroup line))) = items at hitems ⊢
  generalize (answers.mapIdx fun index answer => answer.elements (quizGroup line) index) = elements
    at hitems ⊢
  have hend : "\n</ul>\n</div>".toList = ['\n'] ++ "</ul>\n</div>".toList := by simp
  rw [String.toList_append, hend, String.toList_append, List.append_assoc, ← List.append_assoc
    items.toList, hitems]
  simp [Element.markup, Element.chunk]

/-! ### Its radio buttons -/

/-- The character stands neither for a tag nor for a quotation. -/
def IsInert (c : Char) : Prop := c ≠ '"' ∧ c ≠ '<' ∧ c ≠ '>'

theorem isInert_of_mem_toString {n : ℕ} {c : Char} (h : c ∈ (toString n).toList) : IsInert c := by
  rw [Nat.toString_eq_ofList_toDigits, String.toList_ofList] at h
  have hdigit := Nat.isDigit_of_mem_toDigits (by decide) (by decide) h
  refine ⟨?_, ?_, ?_⟩ <;> rintro rfl <;> exact absurd hdigit (by decide)

theorem isInert_of_mem_quizGroup {line : ℕ} {c : Char} (h : c ∈ (quizGroup line).toList) :
    IsInert c := by
  have hgroup : (quizGroup line).toList = ['q', 'u', 'i', 'z', '-'] ++ (toString line).toList := by
    unfold quizGroup
    generalize toString line = number
    show ("quiz-" ++ number).toList = _
    simp
  rw [hgroup, List.mem_append] at h
  rcases h with h | h
  · have hall : ∀ c ∈ ['q', 'u', 'i', 'z', '-'], IsInert c := by simp [IsInert]
    exact hall c h
  · exact isInert_of_mem_toString h

variable {group : String} {index line : ℕ} {answer : Answer}

/-- The parts of the tag of a radio button between its quotation marks. -/
theorem splitOn_input (hgroup : ∀ c ∈ group.toList, IsInert c) :
    ((answer.input group index).tag.toList.splitOn '"').map String.ofList =
      ["input type=", "radio", " name=", group, " value=", toString index,
        " data-correct=", if answer.correct then "true" else "false", ""] := by
  unfold Answer.input
  have hindex : ∀ c ∈ (toString index).toList, IsInert c := fun c => isInert_of_mem_toString
  have hcorrect : '"' ∉ (if answer.correct then "true" else "false").toList := by
    cases answer.correct <;> decide
  generalize toString index = value at hindex ⊢
  generalize (if answer.correct then "true" else "false") = correct at hcorrect ⊢
  rw [String.toList_intercalate, show "\"".toList = ['"'] by simp, List.splitOn_intercalate]
  · simp
  · have hquote {text : String} (h : ∀ c ∈ text.toList, IsInert c) : '"' ∉ text.toList :=
      fun hmem => (h _ hmem).1 rfl
    simp [hquote hgroup, hquote hindex, hcorrect]
  · simp

theorem radio?_input (hgroup : ∀ c ∈ group.toList, IsInert c) :
    (answer.input group index).radio? =
      some ⟨group, toString index, " " ++ Html.escape answer.text⟩ := by
  rw [Element.radio?, splitOn_input hgroup]
  simp [quoted, Answer.input]

/-- A text is joined from characters of its parts. -/
theorem forall_mem_intercalate {p : Char → Prop} {separator : String} {texts : List String}
    (hseparator : ∀ c ∈ separator.toList, p c) (htexts : ∀ text ∈ texts, ∀ c ∈ text.toList, p c) :
    ∀ c ∈ (separator.intercalate texts).toList, p c := by
  induction texts with
  | nil => simp
  | cons text texts ih =>
    rw [List.forall_mem_cons] at htexts
    cases texts with
    | nil =>
      rw [String.intercalate_singleton]
      exact htexts.1
    | cons =>
      rw [String.intercalate_cons_cons, String.toList_append, String.toList_append]
      exact List.forall_mem_append.2 ⟨List.forall_mem_append.2 ⟨htexts.1, hseparator⟩, ih htexts.2⟩

/-- The tag of a radio button is plain: only its group and its number vary. -/
theorem isPlain_input (hgroup : ∀ c ∈ group.toList, IsInert c) :
    (answer.input group index).IsPlain where
  tag := by
    have hplain {text : String} (h : ∀ c ∈ text.toList, IsInert c) :
        ∀ c ∈ text.toList, c ≠ '<' ∧ c ≠ '>' := fun c hc => (h c hc).2
    refine forall_mem_intercalate (by simp) ?_
    simp only [List.forall_mem_cons, List.not_mem_nil, false_implies, implies_true, and_true]
    refine ⟨by simp, by simp, by simp, hplain hgroup, by simp,
      hplain fun c => isInert_of_mem_toString, by simp, ?_, by simp⟩
    split <;> simp
  text := by
    rw [Answer.input, String.toList_append, List.mem_append, not_or]
    exact ⟨by simp, not_mem_escape List.mem_cons_self _⟩

theorem isPlain_elements (hgroup : ∀ c ∈ group.toList, IsInert c) :
    ∀ element ∈ answer.elements group index, element.IsPlain := by
  have hplain {element : Element} (htag : ∀ c ∈ element.tag.toList, c ≠ '<' ∧ c ≠ '>')
      (htext : '<' ∉ element.text.toList) : element.IsPlain := ⟨htag, htext⟩
  unfold Answer.elements
  simp only [List.forall_mem_cons, List.not_mem_nil, false_implies, implies_true, and_true]
  exact ⟨⟨by simp, by simp⟩, ⟨by simp, by simp⟩, isPlain_input hgroup, ⟨by simp, by simp⟩,
    ⟨by simp, by simp⟩⟩

theorem isPlain_quizElements (line : ℕ) (question : String) (answers : List Answer) :
    ∀ element ∈ quizElements line question answers, element.IsPlain := by
  intro element helement
  simp only [quizElements, List.mem_append, List.mem_flatten, List.mem_mapIdx] at helement
  rcases helement with (helement | ⟨_, ⟨index, _, rfl⟩, helement⟩) | helement
  · simp only [List.mem_cons, List.not_mem_nil, or_false] at helement
    rcases helement with rfl | rfl | rfl | rfl
    · exact ⟨by simp, by simp⟩
    · exact ⟨by simp, not_mem_escape List.mem_cons_self _⟩
    · exact ⟨by simp, by simp⟩
    · exact ⟨by simp, by simp⟩
  · exact isPlain_elements (fun c => isInert_of_mem_quizGroup) element helement
  · simp only [List.mem_cons, List.not_mem_nil, or_false] at helement
    rcases helement with rfl | rfl
    · exact ⟨by simp, by simp⟩
    · exact ⟨by simp, by simp⟩

theorem filterMap_elements (hgroup : ∀ c ∈ group.toList, IsInert c) :
    (answer.elements group index).filterMap Element.radio? =
      [⟨group, toString index, " " ++ Html.escape answer.text⟩] := by
  have hli : (Element.mk "li" "").radio? = none := by cbv
  have hlabel : (Element.mk "label" "").radio? = none := by cbv
  have hlabelEnd : (Element.mk "/label" "").radio? = none := by cbv
  have hliEnd : (Element.mk "/li" "\n").radio? = none := by cbv
  unfold Answer.elements
  rw [List.filterMap_cons_none hli, List.filterMap_cons_none hlabel,
    List.filterMap_cons_some (radio?_input hgroup), List.filterMap_cons_none hlabelEnd,
    List.filterMap_cons_none hliEnd, List.filterMap_nil]

/-- **The block of a quiz** has one radio button for each answer, in order and numbered from zero,
    all of them in the group that is named for the line. -/
theorem radios_renderQuiz (line : ℕ) (question : String) (answers : List Answer) :
    radios (renderQuiz line question answers) = answers.mapIdx fun index answer =>
      ⟨quizGroup line, toString index, " " ++ Html.escape answer.text⟩ := by
  have hdiv : (Element.mk "div class=\"quiz\"" "\n").radio? = none := by cbv
  have hp (text : String) : (Element.mk "p" text).radio? = none := by cbv
  have hpEnd : (Element.mk "/p" "\n").radio? = none := by cbv
  have hul : (Element.mk "ul" "\n").radio? = none := by cbv
  have hulEnd : (Element.mk "/ul" "\n").radio? = none := by cbv
  have hdivEnd : (Element.mk "/div" "").radio? = none := by cbv
  have hgroup : ∀ c ∈ (quizGroup line).toList, IsInert c := fun c => isInert_of_mem_quizGroup
  rw [radios, elements_flatMap_markup (toList_renderQuiz line question answers)
    (isPlain_quizElements line question answers), quizElements]
  simp only [List.filterMap_append, List.filterMap_cons, hdiv, hp, hpEnd, hul, hulEnd, hdivEnd,
    List.filterMap_nil, List.nil_append, List.append_nil, List.mapIdx_eq_zipIdx_map,
    List.filterMap_flatten, List.map_map]
  have hitem (item : Answer × ℕ) :
      (List.filterMap Element.radio? ∘ fun x => Answer.elements (quizGroup line) x.2 x.1) item =
        [⟨quizGroup line, toString item.2, " " ++ Html.escape item.1.text⟩] :=
    filterMap_elements hgroup
  rw [List.map_congr_left fun item _ => hitem item, ← List.flatMap_def, ← List.map_eq_flatMap]

/-! ## The blocks of a page -/

/-- The blocks stand in the text, one behind the other. -/
inductive Scattered : List String → String → Prop
  | nil {text : String} : Scattered [] text
  | cons {before block behind : String} {blocks : List String} : Scattered blocks behind →
      Scattered (block :: blocks) (before ++ (block ++ behind))

namespace Scattered

variable {blocks blocks' : List String} {text text' : String}

theorem prepend (h : Scattered blocks text) (before : String) : Scattered blocks (before ++ text) := by
  cases h with
  | nil => exact .nil
  | cons h =>
    rw [← String.append_assoc]
    exact .cons h

theorem append (h : Scattered blocks text) (h' : Scattered blocks' text') :
    Scattered (blocks ++ blocks') (text ++ text') := by
  induction h with
  | nil => exact h'.prepend _
  | cons _ ih =>
    rw [String.append_assoc, String.append_assoc]
    exact .cons ih

/-- The blocks of texts that are joined stand in the joined text. -/
theorem intercalate (separator : String) {blocks : List (List String)} {texts : List String}
    (h : List.Forall₂ Scattered blocks texts) :
    Scattered blocks.flatten (separator.intercalate texts) := by
  induction h with
  | nil => exact .nil
  | @cons first text blocks texts hfirst hrest ih =>
    rw [List.flatten_cons]
    cases hrest with
    | nil =>
      rw [String.intercalate_singleton, List.flatten_nil, List.append_nil]
      exact hfirst
    | cons =>
      rw [String.intercalate_cons_cons, String.append_assoc]
      exact hfirst.append (ih.prepend separator)

end Scattered

/-! ### Documents -/

/-- A document that is expanded: its text, the page that it is for, and the files at the time. -/
structure Document where
  fs : FileSystem
  page : PageInfo
  source : String

/-- The document with every call of the built-ins replaced. -/
def Document.expand (document : Document) : Except Interruption String :=
  (Registry.empty.registerAll builtins).expand document.fs document.page document.source

/-- The call is one of a quiz. -/
def Call.isQuiz (call : Call) : Bool := Text.lower call.name == "quiz"

/-- The quizzes that a document calls, in order. -/
def Document.quizCalls (document : Document) : List (Document × Call) :=
  match Segment.parse document.source with
  | .ok segments => ((Segment.calls segments).filter Call.isQuiz).map (document, ·)
  | .error _ => []

/-- The block is what the call of a quiz becomes, with a radio button for each of its answers. -/
structure IsBlock (quiz : Document × Call) (block : String) : Prop where
  invoke : (Registry.empty.registerAll builtins).invoke quiz.1.fs quiz.1.page quiz.2 = .ok block
  buttons : ∃ bound answers, bindArguments quiz.2 Builtin.quiz.signatures = .ok bound ∧
    bound.read (.list Builtin.answer) 1 = .ok answers ∧ answers ≠ [] ∧
    radios block = answers.mapIdx fun index answer =>
      ⟨quizGroup quiz.2.line, toString index, " " ++ Html.escape answer.text⟩

/-- The radio buttons of two blocks are in one group. -/
def ShareGroup (block block' : String) : Prop :=
  ∃ radio ∈ radios block, ∃ radio' ∈ radios block', radio.group = radio'.group

theorem resolve?_quiz {name : String} (h : Text.lower name = "quiz") :
    (Registry.empty.registerAll builtins).resolve? name = some Builtin.quiz := by
  rw [Registry.resolve?, h]
  rfl

/-- What a quiz replies to answers with a correct one. -/
theorem reply_quiz {fs : FileSystem} {page : PageInfo} {index : ℕ} {question : String}
    {items : List Value} {answers : List Answer}
    (hread : (Reader.list Builtin.answer).read (Value.array items).toJson = some answers)
    (hcorrect : ∃ answer ∈ answers, answer.correct = true) :
    Builtin.quiz.reply fs page ⟨index, [.string question, .array items]⟩ =
      .text (renderQuiz page.line question answers) := by
  have hquestion : BoundArguments.string ⟨index, [.string question, .array items]⟩ 0 =
      .ok question := rfl
  have hanswers : BoundArguments.read ⟨index, [.string question, .array items]⟩
      (.list Builtin.answer) 1 = .ok answers := BoundArguments.read_eq_ok rfl hread
  have hne : answers.isEmpty = false := by
    obtain ⟨answer, hanswer, -⟩ := hcorrect
    rw [List.isEmpty_eq_false_iff]
    exact List.ne_nil_of_mem hanswer
  have hany : answers.any (·.correct) = true := List.any_eq_true.2 hcorrect
  simp only [Builtin.quiz, Builtin.define, hquestion, hanswers, need_bind, hne, hany]
  rfl

/-- A quiz that does not refuse a call has a correct answer. -/
theorem exists_answers_of_reply {fs : FileSystem} {page : PageInfo} {bound : BoundArguments}
    {block : String} (h : Builtin.quiz.reply fs page bound = .text block) :
    ∃ question answers, bound.read (.list Builtin.answer) 1 = .ok answers ∧
      (∃ answer ∈ answers, answer.correct = true) ∧
      renderQuiz page.line question answers = block := by
  simp only [Builtin.quiz, Builtin.define] at h
  cases hquestion : bound.string 0 with
  | error e => rw [hquestion] at h; cases h
  | ok question =>
    cases hanswers : bound.read (.list Builtin.answer) 1 with
    | error e => rw [hquestion, hanswers] at h; cases h
    | ok answers =>
      simp only [hquestion, hanswers, need_bind] at h
      split at h
      · cases h
      · split at h
        · cases h
        · rename_i hcorrect
          cases h
          exact ⟨question, answers, rfl, by simpa using hcorrect, rfl⟩

theorem isBlock_of_invoke {quiz : Document × Call} {block : String} (hquiz : quiz.2.isQuiz = true)
    (h : (Registry.empty.registerAll builtins).invoke quiz.1.fs quiz.1.page quiz.2 = .ok block) :
    IsBlock quiz block := by
  obtain ⟨extension, bound, hresolve, hbind, hreply⟩ := Registry.invoke_eq_ok_iff.1 h
  obtain rfl := Option.some.inj ((resolve?_quiz (beq_iff_eq.1 hquiz)).symm.trans hresolve)
  obtain ⟨question, answers, hanswers, ⟨answer, hanswer, -⟩, rfl⟩ := exists_answers_of_reply hreply
  exact ⟨h, bound, answers, hbind, hanswers, List.ne_nil_of_mem hanswer, radios_renderQuiz ..⟩

/-- The blocks of the quizzes of a document stand in what it is expanded to. -/
theorem exists_blocks_of_expandSegments {document : Document} {segments : List Segment} {text : String}
    (h : (Registry.empty.registerAll builtins).expandSegments document.fs document.page segments =
      .ok text) :
    ∃ blocks, Scattered blocks text ∧ List.Forall₂ IsBlock
      (((Segment.calls segments).filter Call.isQuiz).map (document, ·)) blocks := by
  induction segments generalizing text with
  | nil => exact ⟨[], .nil, .nil⟩
  | cons segment segments ih =>
    cases segment with
    | literal first =>
      obtain ⟨behind, hbehind, rfl⟩ := Attempt.map_eq_ok_iff.1 h
      obtain ⟨blocks, hscattered, hblocks⟩ := ih hbehind
      exact ⟨blocks, hscattered.prepend first, hblocks⟩
    | call call =>
      obtain ⟨first, behind, hinvoke, hbehind, rfl⟩ := Registry.expandSegments_call_eq_ok_iff.1 h
      obtain ⟨blocks, hscattered, hblocks⟩ := ih hbehind
      have hcalls : Segment.calls (.call call :: segments) = call :: Segment.calls segments := rfl
      rw [hcalls]
      by_cases hquiz : call.isQuiz = true
      · rw [List.filter_cons_of_pos hquiz, List.map_cons]
        refine ⟨first :: blocks, ?_, .cons (isBlock_of_invoke hquiz hinvoke) hblocks⟩
        have hcons : Scattered (first :: blocks) ("" ++ (first ++ behind)) := .cons hscattered
        rwa [String.empty_append] at hcons
      · rw [List.filter_cons_of_neg hquiz]
        exact ⟨blocks, hscattered.prepend first, hblocks⟩

theorem Document.exists_blocks {document : Document} {text : String} (h : document.expand = .ok text) :
    ∃ blocks, Scattered blocks text ∧ List.Forall₂ IsBlock document.quizCalls blocks := by
  obtain ⟨segments, hparse, hexpand⟩ := Registry.expand_eq_ok_iff.1 h
  rw [Document.quizCalls, hparse]
  exact exists_blocks_of_expandSegments hexpand

theorem exists_blocks {documents : List Document} {texts : List String}
    (h : List.Forall₂ (fun document text => document.expand = .ok text) documents texts) :
    ∃ blocks : List (List String), List.Forall₂ Scattered blocks texts ∧
      List.Forall₂ IsBlock (documents.flatMap Document.quizCalls) blocks.flatten := by
  induction h with
  | nil => exact ⟨[], .nil, .nil⟩
  | cons hfirst _ ih =>
    obtain ⟨first, hscattered, hfirst⟩ := Document.exists_blocks hfirst
    obtain ⟨blocks, hrest, hblocks⟩ := ih
    exact ⟨first :: blocks, .cons hscattered hrest, List.rel_append hfirst hblocks⟩

/-! ### Their groups -/

namespace IsBlock

variable {quiz quiz' : Document × Call} {block block' : String}

theorem group_eq (h : IsBlock quiz block) : ∀ radio ∈ radios block,
    radio.group = quizGroup quiz.2.line := by
  obtain ⟨-, -, answers, -, -, -, hradios⟩ := h
  rw [hradios]
  intro radio hradio
  obtain ⟨_, _, rfl⟩ := List.mem_mapIdx.1 hradio
  rfl

theorem radios_ne_nil (h : IsBlock quiz block) : radios block ≠ [] := by
  obtain ⟨-, -, answers, -, -, hne, hradios⟩ := h
  rw [hradios]
  simpa using hne

/-- Two quizzes share a group just if their lines have the same number. -/
theorem shareGroup_iff (h : IsBlock quiz block) (h' : IsBlock quiz' block') :
    ShareGroup block block' ↔ quiz.2.line = quiz'.2.line := by
  rw [← quizGroup_inj]
  constructor
  · rintro ⟨radio, hradio, radio', hradio', hgroup⟩
    rw [← h.group_eq radio hradio, ← h'.group_eq radio' hradio', hgroup]
  · intro hline
    obtain ⟨radio, hradio⟩ := List.exists_mem_of_ne_nil _ h.radios_ne_nil
    obtain ⟨radio', hradio'⟩ := List.exists_mem_of_ne_nil _ h'.radios_ne_nil
    refine ⟨radio, hradio, radio', hradio', ?_⟩
    rw [h.group_eq radio hradio, h'.group_eq radio' hradio', hline]

/-- No two of several quizzes share a group just if their lines have different numbers. -/
theorem pairwise_not_shareGroup_iff {quizzes : List (Document × Call)} {blocks : List String}
    (h : List.Forall₂ IsBlock quizzes blocks) :
    blocks.Pairwise (fun block block' => ¬ ShareGroup block block') ↔
      (quizzes.map fun quiz => quiz.2.line).Nodup := by
  obtain ⟨hlength, hblocks⟩ := List.forall₂_iff_zip.1 h
  have hzip : (quizzes.zip blocks).Pairwise (fun a b => ¬ ShareGroup a.2 b.2) ↔
      (quizzes.zip blocks).Pairwise (fun a b => a.1.2.line ≠ b.1.2.line) :=
    List.Pairwise.iff_of_mem fun ha hb => not_congr ((hblocks ha).shareGroup_iff (hblocks hb))
  rw [← List.pairwise_map (f := Prod.snd) (R := fun block block' => ¬ ShareGroup block block'),
    List.map_snd_zip hlength.ge] at hzip
  have hlines : quizzes.map (fun quiz => quiz.2.line) =
      (quizzes.zip blocks).map (fun pair => pair.1.2.line) := by
    conv_lhs => rw [← List.map_fst_zip hlength.le, List.map_map]
    rfl
  rw [hzip, hlines, List.Nodup, List.pairwise_map]

end IsBlock

/-- The line of a quiz is counted in its own document. -/
theorem Document.line_of_mem_quizCalls {document : Document} {quiz : Document × Call}
    (h : quiz ∈ document.quizCalls) : quiz.2.line = 1 +
      (String.Pos.Raw.extract document.source ⟨0⟩ ⟨quiz.2.span.first⟩).toList.count '\n' := by
  rw [Document.quizCalls] at h
  cases hparse : Segment.parse document.source with
  | error e => rw [hparse] at h; cases h
  | ok segments =>
    rw [hparse] at h
    obtain ⟨call, hcall, rfl⟩ := List.mem_map.1 h
    have hfaithful := Segment.faithful_of_laid ((Segment.parse_eq_iff _ _).1 hparse)
    exact (hfaithful.stands call (List.mem_of_mem_filter hcall)).line

/-- **Which quizzes of a page share a group**, on a page of its own and on one that several documents
    make up.  The blocks stand there one behind the other.  Each has a radio button for every
    answer, numbered from zero in the order of the answers, all of them in one group.  Two quizzes
    share a group just if the lines of their calls, each counted in its own document, have the same
    number; and all groups are different just if all these numbers are. -/
theorem shared_groups_of_expand {documents : List Document} {texts : List String}
    (h : List.Forall₂ (fun document text => document.expand = .ok text) documents texts) :
    ∃ blocks : List String,
      (∀ text, texts = [text] → Scattered blocks text) ∧
      (∀ (barrier : Barrier) (separator : String), barrier.fragments.map (·.2) = texts →
        Scattered blocks (barrier.joinFragments separator).1) ∧
      List.Forall₂ IsBlock (documents.flatMap Document.quizCalls) blocks ∧
      (∀ document ∈ documents, ∀ quiz ∈ document.quizCalls, quiz.2.line = 1 +
        (String.Pos.Raw.extract document.source ⟨0⟩ ⟨quiz.2.span.first⟩).toList.count '\n') ∧
      (∀ a ∈ (documents.flatMap Document.quizCalls).zip blocks,
        ∀ b ∈ (documents.flatMap Document.quizCalls).zip blocks,
          ShareGroup a.2 b.2 ↔ a.1.2.line = b.1.2.line) ∧
      (blocks.Pairwise (fun block block' => ¬ ShareGroup block block') ↔
        ((documents.flatMap Document.quizCalls).map fun quiz => quiz.2.line).Nodup) := by
  obtain ⟨blocks, hscattered, hblocks⟩ := exists_blocks h
  obtain ⟨-, hzip⟩ := List.forall₂_iff_zip.1 hblocks
  refine ⟨blocks.flatten, ?_, ?_, hblocks, fun document _ quiz => Document.line_of_mem_quizCalls,
    fun a ha b hb => (hzip ha).shareGroup_iff (hzip hb), IsBlock.pairwise_not_shareGroup_iff hblocks⟩
  · rintro text rfl
    rw [← String.intercalate_singleton (s := "") (t := text)]
    exact .intercalate "" hscattered
  · rintro barrier separator rfl
    exact .intercalate separator hscattered

/-! ### Quizzes with one answer -/

/-- A document of a page without files. -/
def Document.ofSource (source : String) : Document :=
  ⟨.empty, ⟨"Intro", "/intro", none, ⟨"."⟩, 0⟩, source⟩

/-- The call of a quiz with one answer. -/
def quizOf (question answer raw : String) (span : Span) (line : ℕ) : Call :=
  ⟨"Quiz", [.string question, .array [.object [("text", .string answer), ("correct", .bool true)]]],
    raw, span, line⟩

section

variable {document : Document} {question answer raw : String} {span : Span} {line : ℕ}

theorem isQuiz_quizOf : (quizOf question answer raw span line).isQuiz = true := by
  rw [Call.isQuiz, quizOf]
  cbv

theorem reply_quizOf (page : PageInfo) :
    Builtin.quiz.reply document.fs page ⟨0, (quizOf question answer raw span line).arguments⟩ =
      .text (renderQuiz page.line question [⟨answer, true⟩]) := by
  have hnodup : (Fields.keys [("text", Value.string answer), ("correct", .bool true)]).Nodup := by
    simp [Fields.keys]
  have hread : Builtin.answer.read (Value.object [("text", .string answer),
      ("correct", .bool true)]).toJson = some ⟨answer, true⟩ := by
    simp only [Value.toJson, Builtin.answer, Value.get?_members hnodup]
    rfl
  have hreads : (Reader.list Builtin.answer).read (Value.array [.object [("text", .string answer),
      ("correct", .bool true)]]).toJson = some [⟨answer, true⟩] := by
    rw [Value.toJson, Value.itemsToJson_eq]
    change [_].mapM Builtin.answer.read = _
    rw [List.mapM_cons, hread]
    rfl
  exact reply_quiz hreads ⟨_, List.mem_cons_self, rfl⟩

theorem invoke_quizOf : (Registry.empty.registerAll builtins).invoke document.fs document.page
    (quizOf question answer raw span line) = .ok (renderQuiz line question [⟨answer, true⟩]) := by
  have hbind : bindArguments (quizOf question answer raw span line) Builtin.quiz.signatures =
      .ok ⟨0, (quizOf question answer raw span line).arguments⟩ := rfl
  exact Registry.invoke_eq_ok_iff.2
    ⟨Builtin.quiz, _, resolve?_quiz (beq_iff_eq.1 isQuiz_quizOf), hbind, reply_quizOf _⟩

end

/-- A document with two quizzes is expanded, and their lines are those of its calls. -/
theorem expand_quizOf {document : Document} {question question' answer answer' raw raw' between : String}
    {span span' : Span} {line line' : ℕ}
    (h : Segment.parse document.source = .ok [.call (quizOf question answer raw span line),
      .literal between, .call (quizOf question' answer' raw' span' line')]) :
    (∃ text, document.expand = .ok text) ∧
      (document.quizCalls.map fun quiz => quiz.2.line) = [line, line'] := by
  constructor
  · refine ⟨_, Registry.expand_eq_ok_iff.2 ⟨_, h, Registry.expandSegments_call_eq_ok_iff.2
      ⟨_, _, invoke_quizOf, Attempt.map_eq_ok_iff.2 ⟨_, Registry.expandSegments_call_eq_ok_iff.2
        ⟨_, _, invoke_quizOf, rfl, rfl⟩, rfl⟩, rfl⟩⟩⟩
  · rw [Document.quizCalls, h]
    simp only [Segment.calls, Segment.call?, List.filterMap_cons, List.filterMap_nil,
      List.filter_cons, isQuiz_quizOf, if_true, List.filter_nil, List.map_cons, List.map_nil]
    rfl

/-- A document with a quiz on each of its two lines. -/
def onTwoLines : Document := .ofSource
  "@Quiz('a', [\x7btext: 'x', correct: true\x7d])\n@Quiz('b', [\x7btext: 'y', correct: true\x7d])"

/-- The same document on another page. -/
def onTwoLinesToo : Document := { onTwoLines with page := ⟨"Exercises", "/exercises", none, ⟨"."⟩, 0⟩ }

/-- A document with two quizzes on its only line. -/
def onOneLine : Document := .ofSource
  "@Quiz('a', [\x7btext: 'x', correct: true\x7d]) @Quiz('b', [\x7btext: 'y', correct: true\x7d])"

theorem parse_onTwoLines : Segment.parse onTwoLines.source = .ok [.call (quizOf "a" "x"
    "'a', [\x7btext: 'x', correct: true\x7d]" ⟨0, 40⟩ 1), .literal "\n", .call (quizOf "b" "y"
    "'b', [\x7btext: 'y', correct: true\x7d]" ⟨41, 81⟩ 2)] := by
  cbv

/-- Quizzes on lines of their own are in groups of their own. -/
theorem shared_groups_of_expand_lines :
    ∃ text blocks, onTwoLines.expand = .ok text ∧ Scattered blocks text ∧
      Scattered blocks (Barrier.joinFragments ⟨[.done], [(0, text)]⟩ "\n").1 ∧
      List.Forall₂ IsBlock onTwoLines.quizCalls blocks ∧
      blocks.Pairwise fun block block' => ¬ ShareGroup block block' := by
  obtain ⟨⟨text, htext⟩, hlines⟩ := expand_quizOf parse_onTwoLines
  obtain ⟨blocks, hpage, haggregate, hblocks, -, -, hgroups⟩ :=
    @shared_groups_of_expand [onTwoLines] [text] (.cons htext .nil)
  rw [List.flatMap_singleton] at hblocks hgroups
  exact ⟨text, blocks, htext, hpage text rfl, haggregate ⟨[.done], [(0, text)]⟩ "\n" rfl, hblocks,
    hgroups.2 (by rw [hlines]; decide)⟩

/-- Two quizzes on one line are in one group; and so are the quizzes of two pages that stand on
    lines of the same number, in the file that both pages go into. -/
theorem quizzes_in_one_group :
    (∃ text blocks, onOneLine.expand = .ok text ∧ Scattered blocks text ∧
      List.Forall₂ IsBlock onOneLine.quizCalls blocks ∧ blocks.length = 2 ∧
      ¬ blocks.Pairwise fun block block' => ¬ ShareGroup block block') ∧
    ∃ text text' blocks, onTwoLines.expand = .ok text ∧ onTwoLinesToo.expand = .ok text' ∧
      Scattered blocks (Barrier.joinFragments ⟨[.done, .done], [(0, text), (1, text')]⟩ "\n\n").1 ∧
      List.Forall₂ IsBlock ([onTwoLines, onTwoLinesToo].flatMap Document.quizCalls) blocks ∧
      (onTwoLines.quizCalls ++ onTwoLinesToo.quizCalls).length = 4 ∧
      ¬ blocks.Pairwise fun block block' => ¬ ShareGroup block block' := by
  constructor
  · have hparse : Segment.parse onOneLine.source = .ok [.call (quizOf "a" "x"
        "'a', [\x7btext: 'x', correct: true\x7d]" ⟨0, 40⟩ 1), .literal " ", .call (quizOf "b" "y"
        "'b', [\x7btext: 'y', correct: true\x7d]" ⟨41, 81⟩ 1)] := by cbv
    obtain ⟨⟨text, htext⟩, hlines⟩ := expand_quizOf hparse
    obtain ⟨blocks, hscattered, hblocks⟩ := Document.exists_blocks htext
    have hlength := congrArg List.length hlines
    rw [List.length_map, hblocks.length_eq] at hlength
    refine ⟨text, blocks, htext, hscattered, hblocks, hlength, ?_⟩
    rw [IsBlock.pairwise_not_shareGroup_iff hblocks, hlines]
    decide
  · obtain ⟨⟨text, htext⟩, hlines⟩ := expand_quizOf parse_onTwoLines
    obtain ⟨⟨text', htext'⟩, hlines'⟩ := @expand_quizOf onTwoLinesToo _ _ _ _ _ _ _ _ _ _ _
      parse_onTwoLines
    obtain ⟨blocks, hscattered, hblocks⟩ := exists_blocks (.cons htext (.cons htext' .nil))
    have hall : ([onTwoLines, onTwoLinesToo].flatMap Document.quizCalls).map
        (fun quiz => quiz.2.line) = [1, 2, 1, 2] := by
      rw [List.flatMap_cons, List.flatMap_singleton, List.map_append, hlines, hlines']
      rfl
    refine ⟨text, text', blocks.flatten, htext, htext', .intercalate "\n\n" hscattered, hblocks,
      ?_, ?_⟩
    · simpa using congrArg List.length hall
    · rw [IsBlock.pairwise_not_shareGroup_iff hblocks, hall]
      decide

end Directive

end CourseSite
