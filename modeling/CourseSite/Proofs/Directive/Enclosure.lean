/-
  What authors write stays inside the markup of images and quizzes.

  * `ImageCall`, `QuizCall`: the calls that become an image and a quiz.
  * `IsImage`: one tag, whose first attribute ends at the first quotation mark behind its start and
    stands for the address.
  * `quizOutline`, `IsQuiz`: the tags of a quiz and the texts behind them, as they were written
    before they were escaped.
  * `author_text_enclosed`: escaping can be undone, every image and every quiz is such markup, and
    every call that is replaced by one is such a call.
-/
import CourseSite.Proofs.Directive.Quizzes
import CourseSite.Proofs.Directive.Rebinding

namespace CourseSite

open Html (Element IsEscaped elements elements_flatMap_markup isEscaped_escape not_mem_escape signs)

/-! ## The text of a number -/

namespace Double

/-- Digits are laid out with zeros and a point. -/
theorem forall_mem_positional {p : Char → Prop} {layout : Layout} {digits : List Char} {e : Int}
    (hzero : p '0') (hpoint : p '.') (hdigits : ∀ c ∈ digits, p c) :
    ∀ c ∈ positional layout digits e, p c := by
  have hzeros (n : ℕ) : ∀ c ∈ List.replicate n '0', p c := by
    intro c hc
    rwa [List.eq_of_mem_replicate hc]
  have htake (n : ℕ) : ∀ c ∈ digits.take n, p c := fun c hc => hdigits c (List.mem_of_mem_take hc)
  have hdrop (n : ℕ) : ∀ c ∈ digits.drop n, p c := fun c hc => hdigits c (List.mem_of_mem_drop hc)
  unfold positional
  split
  · simp only [List.forall_mem_append, List.forall_mem_cons]
    exact ⟨⟨hzero, hpoint, hzeros _⟩, hdigits⟩
  · dsimp only
    split
    · simp only [List.forall_mem_append]
      refine ⟨⟨hdigits, hzeros _⟩, ?_⟩
      split
      · simp [hzero, hpoint]
      · simp
    · simp only [List.forall_mem_append, List.forall_mem_cons]
      exact ⟨htake _, hpoint, hdrop _⟩

/-- The character may stand in a number without an exponent, in an infinity or in no number. -/
def IsNumeralChar (c : Char) : Prop := c.isDigit = true ∨ c ∈ ['-', '.', 'N', 'a', 'i', 'n', 'f']

theorem isNumeralChar_of_mem_render (x : Double) : ∀ c ∈ (x.render .plain).toList, IsNumeralChar c := by
  have hmagnitude : ∀ c ∈ x.renderMagnitude .plain, IsNumeralChar c := by
    unfold renderMagnitude
    split
    · simp [Layout.plain, IsNumeralChar]
    · refine forall_mem_positional (by simp [IsNumeralChar]) (by simp [IsNumeralChar]) fun c hc => ?_
      exact .inl (Nat.isDigit_of_mem_toDigits (by decide) (by decide) hc)
  have hsign : ∀ c ∈ (if x.negative then "-" else "").toList, IsNumeralChar c := by
    split <;> simp [IsNumeralChar]
  unfold render
  split
  · simp [IsNumeralChar]
  · dsimp only
    split
    · rw [String.toList_append, String.toList_ofList]
      exact List.forall_mem_append.2 ⟨hsign, hmagnitude⟩
    · rw [String.toList_append]
      exact List.forall_mem_append.2 ⟨hsign, by simp [IsNumeralChar]⟩

/-- No sign of a tag or of a quotation is in a number. -/
theorem not_mem_render {sign : Char} (hsign : sign ∈ signs) (x : Double) :
    sign ∉ (x.render .plain).toList := by
  have hsigns : ∀ sign ∈ signs, ¬ IsNumeralChar sign := by simp [signs, IsNumeralChar]
  exact fun hmem => hsigns sign hsign (isNumeralChar_of_mem_render x sign hmem)

end Double

namespace Directive

open Builtin (Answer answerType renderQuiz)

variable {fs : FileSystem} {page : PageInfo} {call : Call} {src question output : String}
  {width : Option Double} {answers : List Answer} {line index : ℕ}

/-- A call that is replaced has the arguments of a signature, some of them widened, and its
    extension replies to them. -/
theorem exists_typed_of_invoke {extension : Extension}
    (hresolve : (Registry.empty.registerAll builtins).resolve? call.name = some extension)
    (hdistinct : ∀ value ∈ call.arguments, value.Distinct)
    (h : (Registry.empty.registerAll builtins).invoke fs page call = .ok output) :
    ∃ signature ∈ extension.signatures, ∃ index values,
      List.Forall₂ (fun param value => HasType param.type value) signature.params values ∧
      List.Forall₂ Widens call.arguments values ∧
      extension.reply fs { page with line := call.line } ⟨index, values⟩ = .text output := by
  obtain ⟨_, ⟨index, values⟩, hresolve', hbind, hreply⟩ := Registry.invoke_eq_ok_iff.1 h
  obtain rfl := Option.some.inj (hresolve.symm.trans hresolve')
  obtain ⟨signature, hsignature, hbound⟩ := boundAs_of_bindArguments hdistinct hbind
  exact ⟨signature, List.mem_of_getElem? hsignature, index, values, hbound.typed, hbound.widens,
    hreply⟩

/-! ## Images -/

/-- The call of an image: its address, and perhaps a width, which is not zero or less. -/
inductive ImageCall (call : Call) (src : String) : Option Double → Prop
  | bare : Text.lower call.name = "image" → call.arguments = [.string src] →
      ImageCall call src none
  | sized {value : Value} {width : Double} : Text.lower call.name = "image" →
      call.arguments = [.string src, value] → bindValue value .float = .ok (.float width) →
      width.isAtMostZero = false → ImageCall call src (some width)

/-- What stands behind the address in the tag of an image. -/
def imageRest : Option Double → String
  | none => "\""
  | some width => "\" width=\"" ++ width.render .plain ++ "\""

/-- The text is one tag.  Its first attribute stands for the address: it ends at the first quotation
    mark behind its start, and nothing but a width follows. -/
structure IsImage (src : String) (width : Option Double) (output : String) : Prop where
  element : ∃ tag, elements output = [⟨tag, ""⟩] ∧ output.toList = (⟨tag, ""⟩ : Element).markup
  address : ∃ behind, output.toList = "<img src=\"".toList ++ behind ∧
    IsEscaped src (.ofList (behind.takeWhile (· ≠ '"'))) ∧
    behind.dropWhile (· ≠ '"') = (imageRest width).toList ++ ['>']

/-- The tag of an image. -/
def imageTag (src : String) (width : Option Double) : String :=
  "img src=\"" ++ Html.escape src ++ imageRest width

theorem isPlain_imageTag : (⟨imageTag src width, ""⟩ : Element).IsPlain where
  tag := by
    have hplain {text : String} (h : ∀ sign ∈ signs, sign ∉ text.toList) :
        ∀ c ∈ text.toList, c ≠ '<' ∧ c ≠ '>' := by
      intro c hc
      have hne {sign : Char} (hsign : sign ∈ signs) : c ≠ sign := fun heq =>
        h sign hsign (heq ▸ hc)
      exact ⟨hne (by simp [signs]), hne (by simp [signs])⟩
    have hsrc := hplain fun _ hsign => not_mem_escape hsign src
    unfold imageTag
    cases width with
    | none =>
      simp only [imageRest, String.toList_append, List.forall_mem_append]
      exact ⟨⟨by simp, hsrc⟩, by simp⟩
    | some width =>
      have hwidth := hplain fun _ hsign => Double.not_mem_render hsign width
      simp only [imageRest, String.toList_append, List.forall_mem_append]
      exact ⟨⟨by simp, hsrc⟩, ⟨by simp, hwidth⟩, by simp⟩
  text := by simp

theorem isImage_imageTag : IsImage src width ("<" ++ imageTag src width ++ ">") where
  element := by
    have htext : ("<" ++ imageTag src width ++ ">").toList =
        (⟨imageTag src width, ""⟩ : Element).markup := by
      simp [Element.markup, Element.chunk]
    refine ⟨imageTag src width, elements_flatMap_markup ?_ ?_, htext⟩
    · rw [htext, List.flatMap_singleton]
    · rw [List.forall_mem_singleton]
      exact isPlain_imageTag
  address := by
    obtain ⟨rest, hrest⟩ : ∃ rest, (imageRest width).toList = '"' :: rest := by
      cases width <;> simp [imageRest]
    have haddress : ∀ c ∈ (Html.escape src).toList, decide (c ≠ '"') = true := by
      intro c hc
      refine decide_eq_true ?_
      rintro rfl
      exact not_mem_escape (by simp [signs]) src hc
    refine ⟨(Html.escape src).toList ++ ((imageRest width).toList ++ ['>']), ?_, ?_, ?_⟩
    · simp [imageTag]
    · rw [List.takeWhile_append_of_pos haddress, hrest, List.cons_append,
        List.takeWhile_cons_of_neg (by simp), List.append_nil, String.ofList_toList]
      exact isEscaped_escape src
    · rw [List.dropWhile_append_of_pos haddress, hrest, List.cons_append,
        List.dropWhile_cons_of_neg (by simp)]

theorem resolve?_image {name : String} (h : Text.lower name = "image") :
    (Registry.empty.registerAll builtins).resolve? name = some Builtin.image := by
  rw [Registry.resolve?, h]
  rfl

/-- What an image replies. -/
theorem reply_image_bare : Builtin.image.reply fs page ⟨index, [.string src]⟩ =
    .text ("<" ++ imageTag src none ++ ">") := by
  have hsrc : BoundArguments.string ⟨index, [.string src]⟩ 0 = .ok src := rfl
  have htext : "<" ++ imageTag src none ++ ">" =
      "<img src=\"" ++ Html.escape src ++ "\"" ++ ">" := by
    simp [imageTag, imageRest, ← String.toList_inj]
  rw [htext]
  simp only [Builtin.image, Builtin.define, hsrc, need_bind]
  rfl

theorem reply_image_sized {width : Double} :
    Builtin.image.reply fs page ⟨index, [.string src, .float width]⟩ =
      if width.isAtMostZero then .failure (.width width)
      else .text ("<" ++ imageTag src (some width) ++ ">") := by
  have hsrc : BoundArguments.string ⟨index, [.string src, .float width]⟩ 0 = .ok src := rfl
  have hfloat : BoundArguments.float ⟨index, [.string src, .float width]⟩ 1 = .ok width := rfl
  have htext : "<" ++ imageTag src (some width) ++ ">" = "<img src=\"" ++ Html.escape src ++ "\"" ++
      " width=\"" ++ width.render .plain ++ "\">" := by
    simp [imageTag, imageRest, ← String.toList_inj]
  rw [htext]
  simp only [Builtin.image, Builtin.define, hsrc, hfloat, need_bind]
  cases width.isAtMostZero <;> rfl

/-- **The call of an image becomes an image.** -/
theorem ImageCall.invoke (h : ImageCall call src width) : ∃ output,
    (Registry.empty.registerAll builtins).invoke fs page call = .ok output ∧
      IsImage src width output := by
  refine ⟨"<" ++ imageTag src width ++ ">", Registry.invoke_eq_ok_iff.2 ?_, isImage_imageTag⟩
  cases h with
  | bare hname harguments =>
    refine ⟨Builtin.image, ⟨0, [.string src]⟩, resolve?_image hname, ?_, reply_image_bare⟩
    rw [bindArguments, harguments]
    rfl
  | @sized value width hname harguments hvalue hpositive =>
    refine ⟨Builtin.image, ⟨1, [.string src, .float width]⟩, resolve?_image hname, ?_, ?_⟩
    · -- the first signature has one parameter
      simp [bindArguments, harguments, Builtin.image, Builtin.define, bindFrom, Signature.arity,
        bindParams, bindValue, hvalue, Except.map]
    · rw [reply_image_sized, hpositive]
      rfl

/-- What a call passes to be bound to a double. -/
theorem bindValue_float_of_widens {value : Value} {width : Double}
    (h : Widens value (.float width)) : bindValue value .float = .ok (.float width) := by
  cases h <;> rw [bindValue]

/-- A call that an image replaces is the call of an image. -/
theorem exists_imageCall (hname : Text.lower call.name = "image")
    (hdistinct : ∀ value ∈ call.arguments, value.Distinct)
    (h : (Registry.empty.registerAll builtins).invoke fs page call = .ok output) :
    ∃ src width, ImageCall call src width := by
  obtain ⟨signature, hmem, index, values, htyped, hwidens, hreply⟩ :=
    exists_typed_of_invoke (resolve?_image hname) hdistinct h
  simp only [Builtin.image, Builtin.define, List.map_cons, List.map_nil, List.mem_cons,
    List.not_mem_nil, or_false] at hmem
  rcases hmem with rfl | rfl
  · obtain _ | ⟨⟨⟩, ⟨⟩⟩ := htyped
    obtain ⟨_, _, hsrc, hnil, hcall⟩ := List.forall₂_cons_right_iff.1 hwidens
    cases hsrc
    cases hnil
    exact ⟨_, none, .bare hname hcall⟩
  · obtain _ | ⟨⟨⟩, _ | ⟨⟨⟩, ⟨⟩⟩⟩ := htyped
    obtain ⟨_, _, hsrc, hrest, hcall⟩ := List.forall₂_cons_right_iff.1 hwidens
    obtain ⟨value, _, hvalue, hnil, rfl⟩ := List.forall₂_cons_right_iff.1 hrest
    cases hsrc
    cases hnil
    rw [reply_image_sized] at hreply
    split at hreply
    · cases hreply
    · rename_i hpositive
      exact ⟨_, some _, .sized hname hcall (bindValue_float_of_widens hvalue)
        (Bool.eq_false_iff.2 hpositive)⟩

/-! ## Quizzes -/

/-- The call of a quiz: its question, and its answers, one of which is correct. -/
structure QuizCall (call : Call) (question : String) (answers : List Answer) : Prop where
  name : Text.lower call.name = "quiz"
  arguments : ∃ items, call.arguments = [.string question, .array items] ∧
    (∀ item ∈ items, HasType answerType item) ∧ List.Forall₂ IsAnswer items answers
  correct : ∃ answer ∈ answers, answer.correct = true

/-- The tags of an answer, its text as it is. -/
def Builtin.Answer.outline (group : String) (index : ℕ) (answer : Answer) : List Element :=
  [⟨"li", ""⟩, ⟨"label", ""⟩, ⟨(answer.input group index).tag, " " ++ answer.text⟩,
    ⟨"/label", ""⟩, ⟨"/li", "\n"⟩]

/-- The tags of a quiz, its texts as they are. -/
def quizOutline (line : ℕ) (question : String) (answers : List Answer) : List Element :=
  [⟨"div class=\"quiz\"", "\n"⟩, ⟨"p", question⟩, ⟨"/p", "\n"⟩, ⟨"ul", "\n"⟩] ++
    (answers.mapIdx fun index answer => answer.outline (quizGroup line) index).flatten ++
    [⟨"/ul", "\n"⟩, ⟨"/div", ""⟩]

/-- The tag is the same, and the text stands for the other one. -/
def Quotes (outline element : Element) : Prop :=
  element.tag = outline.tag ∧ IsEscaped outline.text element.text

/-- The text is all tags: those of the quiz, and behind each of them what stands for its text. -/
structure IsQuiz (line : ℕ) (question : String) (answers : List Answer) (output : String) :
    Prop where
  markup : output.toList = (elements output).flatMap Element.markup
  outline : List.Forall₂ Quotes (quizOutline line question answers) (elements output)

theorem quotes_escape (outline : Element) : Quotes outline ⟨outline.tag, Html.escape outline.text⟩ :=
  ⟨rfl, isEscaped_escape _⟩

/-- Only the texts of the author are changed by being escaped. -/
theorem quizElements_eq (line : ℕ) (question : String) (answers : List Answer) :
    quizElements line question answers =
      (quizOutline line question answers).map fun outline =>
        ⟨outline.tag, Html.escape outline.text⟩ := by
  have hempty : Html.escape "" = "" := by simp [Html.escape]
  have hbreak : Html.escape "\n" = "\n" := by simp [Html.escape, Html.escapeChar]
  have hspace (text : String) : Html.escape (" " ++ text) = " " ++ Html.escape text := by
    rw [Html.escape_append]
    congr 1
  have hanswer (index : ℕ) (answer : Answer) : answer.elements (quizGroup line) index =
      (answer.outline (quizGroup line) index).map fun outline =>
        ⟨outline.tag, Html.escape outline.text⟩ := by
    simp [Answer.elements, Answer.outline, Answer.input, hempty, hbreak, hspace]
  have hanswers : (answers.mapIdx fun index answer => answer.elements (quizGroup line) index) =
      (answers.mapIdx fun index answer => answer.outline (quizGroup line) index).map
        (List.map fun outline => ⟨outline.tag, Html.escape outline.text⟩) :=
    List.ext_getElem (by simp) (by simp [hanswer])
  simp [quizElements, quizOutline, hempty, hbreak, hanswers, List.map_flatten]

theorem isQuiz_renderQuiz : IsQuiz line question answers (renderQuiz line question answers) := by
  have helements : elements (renderQuiz line question answers) =
      quizElements line question answers :=
    elements_flatMap_markup (toList_renderQuiz ..) (isPlain_quizElements _ _ _)
  constructor
  · rw [helements, toList_renderQuiz]
  · rw [helements, quizElements_eq, List.forall₂_map_right_iff, List.forall₂_same]
    exact fun outline _ => quotes_escape outline

/-- An object says one answer. -/
theorem IsAnswer.unique {value : Value} {answer answer' : Answer} (hvalue : HasType answerType value)
    (h : IsAnswer value answer) (h' : IsAnswer value answer') : answer = answer' := by
  obtain ⟨text, correct⟩ := answer
  obtain ⟨text', correct'⟩ := answer'
  obtain ⟨fields, rfl, htext, hcorrect⟩ := h
  obtain ⟨_, hfields, htext', hcorrect'⟩ := h'
  cases hfields
  cases hvalue with
  | record hnodup =>
    rw [← Fields.get?_eq_some_iff hnodup] at htext htext'
    cases htext.symm.trans htext'
    exact congrArg _ (Bool.eq_iff_iff.2 (hcorrect.trans hcorrect'.symm))

theorem answers_unique {items : List Value} {answers answers' : List Answer}
    (hitems : ∀ item ∈ items, HasType answerType item) (h : List.Forall₂ IsAnswer items answers)
    (h' : List.Forall₂ IsAnswer items answers') : answers = answers' := by
  induction h generalizing answers' with
  | nil => cases h'; rfl
  | cons hfirst _ ih =>
    rw [List.forall_mem_cons] at hitems
    cases h' with
    | cons hfirst' hrest' => rw [IsAnswer.unique hitems.1 hfirst hfirst', ih hitems.2 hrest']

/-- **The call of a quiz becomes a quiz.** -/
theorem QuizCall.invoke (h : QuizCall call question answers) : ∃ output,
    (Registry.empty.registerAll builtins).invoke fs page call = .ok output ∧
      IsQuiz call.line question answers output := by
  obtain ⟨hname, ⟨items, harguments, htyped, hanswers⟩, hcorrect⟩ := h
  refine ⟨renderQuiz call.line question answers, Registry.invoke_eq_ok_iff.2
    ⟨Builtin.quiz, ⟨0, [.string question, .array items]⟩, resolve?_quiz hname, ?_, ?_⟩,
    isQuiz_renderQuiz⟩
  · have hparams : bindParams 0 [⟨"question", .string⟩, ⟨"answers", .array answerType⟩]
        [.string question, .array items] = .ok [.string question, .array items] :=
      bindParams_of_hasType 0 (.cons .string (.cons (.array htyped) .nil))
    simp [bindArguments, harguments, Builtin.quiz, Builtin.define, bindFrom, Signature.arity, hparams]
  · obtain ⟨read, hread, hread'⟩ := answers_of_hasType htyped
    obtain rfl := answers_unique htyped hanswers hread'
    exact reply_quiz hread hcorrect

theorem eq_of_forall₂ {α : Type} {R : α → α → Prop} {as bs : List α} (h : List.Forall₂ R as bs)
    (heq : ∀ a, ∀ b ∈ bs, R a b → a = b) : as = bs := by
  induction h with
  | nil => rfl
  | cons hfirst _ ih =>
    rw [heq _ _ List.mem_cons_self hfirst,
      ih fun a b hb hab => heq a b (List.mem_cons_of_mem _ hb) hab]

/-- No integer of an answer is widened, as an answer holds none. -/
theorem eq_of_widens_answer {item bound : Value} (h : HasType answerType bound)
    (hwidens : Widens item bound) : item = bound := by
  cases h with
  | @record _ _ fields' _ hkeys htyped =>
    cases hwidens with
    | @object fields _ hkeys' hvalues =>
      congr 1
      refine eq_of_forall₂ (forall₂_fields hkeys' hvalues) ?_
      rintro ⟨key, value⟩ ⟨key', value'⟩ hpair ⟨hkey, hvalue⟩
      dsimp only at hkey hvalue
      subst hkey
      have hknown := hkeys.known key' (List.mem_map_of_mem (f := Prod.fst) hpair)
      obtain ⟨field, hfield⟩ := Option.isSome_iff_exists.1 hknown
      have htype := htyped _ hpair field hfield
      have hfield := List.mem_of_find?_eq_some hfield
      simp only [List.mem_cons, List.not_mem_nil, or_false] at hfield
      rcases hfield with rfl | rfl
      · cases htype
        cases hvalue
        rfl
      · cases htype
        cases hvalue
        rfl

/-- A call that a quiz replaces is the call of a quiz. -/
theorem exists_quizCall (hname : Text.lower call.name = "quiz")
    (hdistinct : ∀ value ∈ call.arguments, value.Distinct)
    (h : (Registry.empty.registerAll builtins).invoke fs page call = .ok output) :
    ∃ question answers, QuizCall call question answers := by
  obtain ⟨signature, hmem, index, values, htyped, hwidens, hreply⟩ :=
    exists_typed_of_invoke (resolve?_quiz hname) hdistinct h
  simp only [Builtin.quiz, Builtin.define, List.map_cons, List.map_nil, List.mem_cons,
    List.not_mem_nil, or_false] at hmem
  subst hmem
  obtain _ | ⟨⟨⟩, _ | ⟨hanswers, ⟨⟩⟩⟩ := htyped
  cases hanswers with
  | array hitems =>
    obtain ⟨_, _, hquestion, hrest, hcall⟩ := List.forall₂_cons_right_iff.1 hwidens
    obtain ⟨_, _, hitem, hnil, rfl⟩ := List.forall₂_cons_right_iff.1 hrest
    cases hquestion
    cases hnil
    cases hitem with
    | @array items _ hforall =>
      obtain rfl := eq_of_forall₂ hforall fun item bound hbound =>
        eq_of_widens_answer (hitems bound hbound)
      obtain ⟨answers, hread, hanswers⟩ := answers_of_hasType hitems
      refine ⟨_, answers, hname, ⟨items, hcall, hitems, hanswers⟩, ?_⟩
      obtain ⟨_, answers', hread', hcorrect, -⟩ := exists_answers_of_reply hreply
      rw [BoundArguments.read_eq_ok rfl hread] at hread'
      cases hread'
      exact hcorrect

/-! ## Author text -/

/-- **Author text does not break out of markup.**  Escaped text holds no sign that starts or ends a
    tag or a quotation, each `&` in it starts an entity, and with its entities replaced from the
    left it is the text again; so no two texts are escaped alike, and they are escaped piece by
    piece.  Hence every call of an image becomes one tag, whose first attribute ends where it is
    meant to end and stands for the address; and every call of a quiz becomes the tags of its
    template, where the texts stand for the question and the answers.  A call of these names that is
    replaced in a document is such a call. -/
theorem author_text_enclosed :
    ((∀ text, IsEscaped text (Html.escape text)) ∧ Function.Injective Html.escape ∧
      ∀ text behind, Html.escape (text ++ behind) = Html.escape text ++ Html.escape behind) ∧
    (∀ fs page call src width, ImageCall call src width → ∃ output,
      (Registry.empty.registerAll builtins).invoke fs page call = .ok output ∧
        IsImage src width output) ∧
    (∀ fs page call question answers, QuizCall call question answers → ∃ output,
      (Registry.empty.registerAll builtins).invoke fs page call = .ok output ∧
        IsQuiz call.line question answers output) ∧
    ∀ fs page source segments call output, Segment.parse source = .ok segments →
      call ∈ Segment.calls segments →
      (Registry.empty.registerAll builtins).invoke fs page call = .ok output →
      (Text.lower call.name = "image" → ∃ src width, ImageCall call src width) ∧
        (Text.lower call.name = "quiz" → ∃ question answers, QuizCall call question answers) := by
  refine ⟨⟨isEscaped_escape, Html.escape_injective, Html.escape_append⟩,
    fun _ _ _ _ _ => ImageCall.invoke, fun _ _ _ _ _ => QuizCall.invoke,
    fun fs page source segments call output hparse hcall hinvoke => ?_⟩
  have hdistinct := distinct_of_parse hparse hcall
  exact ⟨fun hname => exists_imageCall hname hdistinct hinvoke,
    fun hname => exists_quizCall hname hdistinct hinvoke⟩

/-- An address that would end its attribute and a quiz whose texts are tags are enclosed. -/
theorem author_text_enclosed_tags :
    ∃ image quiz, Segment.parse
        "@Image('\" id=\"x')@Quiz('&lt;/p>', [\x7btext: '</li>', correct: true\x7d])" =
          .ok [.call image, .call quiz] ∧
      (∃ output, (Registry.empty.registerAll builtins).invoke .empty
        ⟨"Intro", "/intro", none, ⟨"."⟩, 0⟩ image = .ok output ∧
          IsImage "\" id=\"x" none output) ∧
      (∃ output, (Registry.empty.registerAll builtins).invoke .empty
        ⟨"Intro", "/intro", none, ⟨"."⟩, 0⟩ quiz = .ok output ∧
          IsQuiz 1 "&lt;/p>" [⟨"</li>", true⟩] output) ∧
      ∃ src width, ImageCall image src width := by
  have hparse : Segment.parse
      "@Image('\" id=\"x')@Quiz('&lt;/p>', [\x7btext: '</li>', correct: true\x7d])" = .ok
        [.call ⟨"Image", [.string "\" id=\"x"], "'\" id=\"x'", ⟨0, 17⟩, 1⟩,
          .call ⟨"Quiz", [.string "&lt;/p>", .array [.object [("text", .string "</li>"),
            ("correct", .bool true)]]], "'&lt;/p>', [\x7btext: '</li>', correct: true\x7d]",
            ⟨17, 67⟩, 1⟩] := by cbv
  obtain ⟨-, himage, hquiz, hcalls⟩ := author_text_enclosed
  have hanswer : HasType answerType
      (.object [("text", .string "</li>"), ("correct", .bool true)]) := by
    refine .record (by simp [Fields.keys]) ⟨by simp [Fields.keys, fieldNamed?], by simp [Fields.keys]⟩ ?_
    simp only [List.forall_mem_cons, List.not_mem_nil, false_implies, implies_true, and_true]
    constructor
    · rintro field ⟨⟩
      exact .string
    · rintro field ⟨⟩
      exact .bool
  obtain ⟨output, hinvoke, henclosed⟩ := himage .empty ⟨"Intro", "/intro", none, ⟨"."⟩, 0⟩
    ⟨"Image", [.string "\" id=\"x"], "'\" id=\"x'", ⟨0, 17⟩, 1⟩ _ _ (.bare (by cbv) rfl)
  refine ⟨_, _, hparse, ⟨output, hinvoke, henclosed⟩, hquiz _ _ _ _ _ ⟨by cbv, ⟨_, rfl, ?_, ?_⟩, ?_⟩,
    (hcalls _ _ _ _ _ _ hparse List.mem_cons_self hinvoke).1 (by cbv)⟩
  · rw [List.forall_mem_singleton]
    exact hanswer
  · exact .cons ⟨_, rfl, by simp, by simp⟩ .nil
  · exact ⟨_, List.mem_cons_self, rfl⟩

end Directive

end CourseSite
