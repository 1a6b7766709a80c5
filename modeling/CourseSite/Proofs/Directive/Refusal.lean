/-
  The built-ins refuse a call for reasons of their own, never over the kinds of its arguments.

  * `Refuses`: the reasons, by the bound values of the call: a width that is not positive, a
    file that is not found or not read, a quiz without answers or without a correct one.
  * `IsAnswer`, `answer_of_hasType`: an answer of the declared type is read from its JSON value,
    with its own text and truth value.
  * `refuses_of_reply`: on typed arguments every failure of a built-in is such a reason.
  * `binding_sound`: so it is on every page.
-/
import CourseSite.Proofs.Directive.Expansion
import CourseSite.Proofs.Directive.Typing
import CourseSite.Directive.Builtin

namespace CourseSite

namespace Directive

/-! ## Fields and their JSON members -/

namespace Value

theorem itemsToJson_eq (items : List Value) : itemsToJson items = items.map toJson := by
  induction items with
  | nil => rfl
  | cons item items ih => rw [itemsToJson, ih, List.map_cons]

theorem membersToJson_eq (fields : List (String × Value)) :
    membersToJson fields = fields.map fun pair => (pair.1, pair.2.toJson) := by
  induction fields with
  | nil => rfl
  | cons pair fields ih => rw [membersToJson, ih, List.map_cons]

/-- A member of the JSON value is the JSON value of the field. -/
theorem get?_members {fields : List (String × Value)} (h : (Fields.keys fields).Nodup)
    (key : String) :
    Fields.get? ((membersToJson fields).mergeSort fun a b => a.1 ≤ b.1) key =
      (Fields.get? fields key).map toJson := by
  have hperm := List.mergeSort_perm (membersToJson fields) fun a b => a.1 ≤ b.1
  have hkeys : Fields.keys (membersToJson fields) = Fields.keys fields := by
    rw [membersToJson_eq, Fields.keys, List.map_map]
    rfl
  have hnodup : (Fields.keys ((membersToJson fields).mergeSort fun a b => a.1 ≤ b.1)).Nodup :=
    (hperm.map _).nodup_iff.2 (by rwa [← Fields.keys, hkeys])
  ext json
  rw [Fields.get?_eq_some_iff hnodup, hperm.mem_iff, membersToJson_eq, List.mem_map,
    Option.map_eq_some_iff]
  constructor
  · rintro ⟨⟨_, value⟩, hmem, heq⟩
    cases heq
    exact ⟨value, (Fields.get?_eq_some_iff h).2 hmem, rfl⟩
  · rintro ⟨value, hvalue, rfl⟩
    exact ⟨(key, value), (Fields.get?_eq_some_iff h).1 hvalue, rfl⟩

end Value

/-! ## Answers of a quiz -/

/-- The answer that an object says: its text, and whether it is correct. -/
def IsAnswer (value : Value) (answer : Builtin.Answer) : Prop :=
  ∃ fields, value = .object fields ∧ ("text", .string answer.text) ∈ fields ∧
    (answer.correct = true ↔ ("correct", .bool true) ∈ fields)

/-- An answer of the declared type is read, without a loss on the way through its JSON value. -/
theorem answer_of_hasType {value : Value} (h : HasType Builtin.answerType value) :
    ∃ answer, Builtin.answer.read value.toJson = some answer ∧ IsAnswer value answer := by
  cases h with
  | @record _ schema fields hnodup hkeys htyped =>
    have htext : ∃ text, ("text", .string text) ∈ fields := by
      have hpresent := hkeys.present ⟨"text", .string, true⟩ List.mem_cons_self rfl
      obtain ⟨⟨_, value⟩, hmem, rfl⟩ := List.mem_map.1 hpresent
      have htype := htyped _ hmem ⟨"text", .string, true⟩ rfl
      cases htype
      exact ⟨_, hmem⟩
    obtain ⟨text, htext⟩ := htext
    have hget := Value.get?_members hnodup
    have hgetText := hget "text"
    have hgetCorrect := hget "correct"
    rw [(Fields.get?_eq_some_iff hnodup).2 htext] at hgetText
    rw [Value.toJson]
    simp only [Builtin.answer, hgetText, hgetCorrect]
    cases hcorrect : Fields.get? fields "correct" with
    | none =>
      refine ⟨⟨text, false⟩, rfl, fields, rfl, htext, nofun, fun hmem => ?_⟩
      rw [(Fields.get?_eq_some_iff hnodup).2 hmem] at hcorrect
      cases hcorrect
    | some value =>
      have hmem := (Fields.get?_eq_some_iff hnodup).1 hcorrect
      have htype := htyped _ hmem ⟨"correct", .bool, false⟩ rfl
      cases htype with
      | @bool b =>
        refine ⟨⟨text, b⟩, rfl, fields, rfl, htext, ?_⟩
        rw [← Fields.get?_eq_some_iff hnodup, hcorrect]
        simp

theorem answers_of_hasType {items : List Value}
    (h : ∀ item ∈ items, HasType Builtin.answerType item) :
    ∃ answers, (Reader.list Builtin.answer).read (Value.array items).toJson = some answers ∧
      List.Forall₂ IsAnswer items answers := by
  rw [Value.toJson, Value.itemsToJson_eq]
  change ∃ answers, (items.map Value.toJson).mapM Builtin.answer.read = some answers ∧ _
  induction items with
  | nil => exact ⟨[], rfl, .nil⟩
  | cons item items ih =>
    rw [List.forall_mem_cons] at h
    obtain ⟨answer, hread, hanswer⟩ := answer_of_hasType h.1
    obtain ⟨answers, hreads, hanswers⟩ := ih h.2
    refine ⟨answer :: answers, ?_, .cons hanswer hanswers⟩
    rw [List.map_cons, List.mapM_cons, hread, hreads]
    rfl

theorem BoundArguments.read_eq_ok {α : Type} {arguments : BoundArguments} {index : Nat}
    {value : Value} {reader : Reader α} {a : α} (hvalue : arguments.values[index]? = some value)
    (hread : reader.read value.toJson = some a) : arguments.read reader index = .ok a := by
  rw [read, hvalue]
  dsimp only
  rw [hread]

theorem exists_answer {items : List Value} {answers : List Builtin.Answer}
    (h : List.Forall₂ IsAnswer items answers) {item : Value} (hitem : item ∈ items) :
    ∃ answer ∈ answers, IsAnswer item answer := by
  induction h with
  | nil => cases hitem
  | cons hanswer _ ih =>
    rcases List.mem_cons.1 hitem with rfl | hitem
    · exact ⟨_, List.mem_cons_self, hanswer⟩
    · obtain ⟨answer, hmem, h⟩ := ih hitem
      exact ⟨answer, List.mem_cons_of_mem _ hmem, h⟩

/-! ## The built-ins -/

/-- Why a built-in refuses a call, by the bound values of the call. -/
inductive Refuses (fs : FileSystem) (page : PageInfo) : List Value → Failure → Prop
  | width {src : String} {width : Double} : width.isAtMostZero = true →
      Refuses fs page [.string src, .float width] (.width width)
  | notIncluded {relative : String} : page.resolve? fs relative = none →
      Refuses fs page [.string relative] (.notIncluded relative page.baseDirectory)
  | unreadable {relative : String} {location : Location} {e : FileError} :
      page.resolve? fs relative = some location →
      fs.readText (.ofNames location) = .error e →
      Refuses fs page [.string relative] (.unreadable (.ofNames location) e)
  | noAnswers {question : String} : Refuses fs page [.string question, .array []] .noAnswers
  | noCorrectAnswer {question : String} {items : List Value} : items ≠ [] →
      (∀ fields, .object fields ∈ items → ("correct", .bool true) ∉ fields) →
      Refuses fs page [.string question, .array items] .noCorrectAnswer

section Replies

theorem need_bind {α : Type} (a : α) (next : α → Except Failure String) :
    (Builtin.need (.ok a) >>= next) = next a := rfl

variable {fs : FileSystem} {page : PageInfo} {index : Nat} {failure : Failure}

theorem refuses_image {src : String} {width : Double}
    (h : Builtin.image.reply fs page ⟨index, [.string src, .float width]⟩ = .failure failure) :
    Refuses fs page [.string src, .float width] failure := by
  have hsrc : BoundArguments.string ⟨index, [.string src, .float width]⟩ 0 = .ok src := rfl
  have hwidth : BoundArguments.float ⟨index, [.string src, .float width]⟩ 1 = .ok width := rfl
  simp only [Builtin.image, Builtin.define, hsrc, hwidth, need_bind] at h
  split at h
  · cases h
  · split at h
    · rename_i hpositive
      cases h
      exact .width hpositive
    · cases h

theorem refuses_includeFile {relative : String}
    (h : Builtin.includeFile.reply fs page ⟨index, [.string relative]⟩ = .failure failure) :
    Refuses fs page [.string relative] failure := by
  have hrelative : BoundArguments.string ⟨index, [.string relative]⟩ 0 = .ok relative := rfl
  simp only [Builtin.includeFile, Builtin.define, hrelative, need_bind] at h
  cases hresolve : page.resolve? fs relative with
  | none =>
    rw [hresolve] at h
    cases h
    exact .notIncluded hresolve
  | some location =>
    rw [hresolve] at h
    dsimp only at h
    cases hread : fs.readText (.ofNames location) with
    | ok text => rw [hread] at h; cases h
    | error e =>
      rw [hread] at h
      cases h
      exact .unreadable hresolve hread

theorem refuses_quiz {question : String} {items : List Value}
    (htyped : ∀ item ∈ items, HasType Builtin.answerType item)
    (h : Builtin.quiz.reply fs page ⟨index, [.string question, .array items]⟩ = .failure failure) :
    Refuses fs page [.string question, .array items] failure := by
  obtain ⟨answers, hread, hanswers⟩ := answers_of_hasType htyped
  have hquestion : BoundArguments.string ⟨index, [.string question, .array items]⟩ 0 =
      .ok question := rfl
  have hargument : BoundArguments.read ⟨index, [.string question, .array items]⟩
      (.list Builtin.answer) 1 = .ok answers := BoundArguments.read_eq_ok rfl hread
  simp only [Builtin.quiz, Builtin.define, hquestion, hargument, need_bind] at h
  split at h
  · rename_i hempty
    rw [List.isEmpty_iff.1 hempty] at hanswers
    cases hanswers
    cases h
    exact .noAnswers
  · rename_i hne
    split at h
    · rename_i hwrong
      cases h
      have hwrong : ∀ answer ∈ answers, ¬ answer.correct = true := by simpa using hwrong
      refine .noCorrectAnswer ?_ fun fields hmem hcorrect => ?_
      · rintro rfl
        cases hanswers
        exact hne rfl
      · obtain ⟨answer, hanswer, _, hfields, -, hiff⟩ := exists_answer hanswers hmem
        cases hfields
        exact hwrong answer hanswer (hiff.2 hcorrect)
    · cases h

/-- On arguments of their declared types a built-in fails for reasons of its own only. -/
theorem refuses_of_reply {extension : Extension} {signature : Signature} {values : List Value}
    (hextension : extension ∈ builtins) (hsignature : signature ∈ extension.signatures)
    (htyped : List.Forall₂ (fun param value => HasType param.type value) signature.params values)
    (h : extension.reply fs page ⟨index, values⟩ = .failure failure) :
    Refuses fs page values failure := by
  simp only [builtins, List.mem_cons, List.not_mem_nil, or_false] at hextension
  rcases hextension with rfl | rfl | rfl | rfl | rfl | rfl
  -- The title and the address read no arguments; for the others the signature that was chosen
  -- fixes the number and the kinds of the values, and with them what the accessors return.
  · cases h
  · cases h
  all_goals
    simp only [Builtin.link, Builtin.image, Builtin.includeFile, Builtin.quiz, Builtin.define,
      List.map_cons, List.map_nil, List.mem_cons, List.not_mem_nil, or_false] at hsignature
  · rcases hsignature with rfl | rfl
    · obtain _ | ⟨⟨⟩, ⟨⟩⟩ := htyped
      cases h
    · obtain _ | ⟨⟨⟩, _ | ⟨⟨⟩, ⟨⟩⟩⟩ := htyped
      cases h
  · rcases hsignature with rfl | rfl
    · obtain _ | ⟨⟨⟩, ⟨⟩⟩ := htyped
      cases h
    · obtain _ | ⟨⟨⟩, _ | ⟨⟨⟩, ⟨⟩⟩⟩ := htyped
      exact refuses_image h
  · subst hsignature
    obtain _ | ⟨⟨⟩, ⟨⟩⟩ := htyped
    exact refuses_includeFile h
  · subst hsignature
    obtain _ | ⟨⟨⟩, _ | ⟨hanswers, ⟨⟩⟩⟩ := htyped
    cases hanswers with
    | array hanswers => exact refuses_quiz hanswers h

end Replies

/-! ## Pages -/

/-- The line of the call has no part in a refusal. -/
theorem Refuses.of_line {fs : FileSystem} {page : PageInfo} {line : Nat} {values : List Value}
    {failure : Failure} (h : Refuses fs { page with line := line } values failure) :
    Refuses fs page values failure := by
  cases h with
  | width h => exact .width h
  | notIncluded h => exact .notIncluded h
  | unreadable h hread => exact .unreadable h hread
  | noAnswers => exact .noAnswers
  | noCorrectAnswer hne h => exact .noCorrectAnswer hne h

/-- **Binding is sound.** A bound call has one value for each parameter of its signature, of the
    declared type at every depth, and every accessor succeeds; the keys of a call of a document
    are distinct, as this asks. So if an extension of a page with the built-ins alone fails, it
    refuses the values of a call there for a reason of its own. -/
theorem binding_sound :
    (∀ (call : Call) (signatures : List Signature) (bound : BoundArguments),
      (∀ value ∈ call.arguments, value.Distinct) → bindArguments call signatures = .ok bound →
      ∃ signature, signatures[bound.signature]? = some signature ∧
        BoundAs signature call.arguments bound) ∧
    (∀ (source : String) (segments : List Segment) (call : Call),
      Segment.parse source = .ok segments → call ∈ Segment.calls segments →
      ∀ value ∈ call.arguments, value.Distinct) ∧
    ∀ (fs : FileSystem) (page : PageInfo) (source name : String) (line : Nat) (failure : Failure),
      (Registry.empty.registerAll builtins).expand fs page source =
        .error (.error (.failed name line failure)) →
      ∃ segments call extension bound, Segment.parse source = .ok segments ∧
        call ∈ Segment.calls segments ∧ call.name = name ∧ call.line = line ∧
        extension ∈ builtins ∧ bindArguments call extension.signatures = .ok bound ∧
        Refuses fs page bound.values failure := by
  refine ⟨fun call signatures bound => boundAs_of_bindArguments,
    fun source segments call => distinct_of_parse, fun fs page source name line failure h => ?_⟩
  rw [Registry.expand] at h
  cases hparse : Segment.parse source with
  | error e => rw [hparse] at h; cases h
  | ok segments =>
    rw [hparse] at h
    obtain ⟨call, hcall, hinvoke⟩ := Registry.exists_call_of_expandSegments h
    obtain ⟨hname, hline, extension, bound, hresolve, hbind, hreply⟩ :=
      Registry.reply_of_invoke hinvoke
    have hextension := Registry.mem_of_resolve? hresolve
    obtain ⟨signature, hsignature, hbound⟩ :=
      boundAs_of_bindArguments (distinct_of_parse hparse hcall) hbind
    have hmem := List.mem_of_getElem? hsignature
    have hrefuses := refuses_of_reply hextension hmem hbound.typed hreply
    exact ⟨segments, call, extension, bound, rfl, hcall, hname, hline, hextension, hbind,
      hrefuses.of_line⟩

/-- The integer of a call is bound as a double, which is no width. -/
theorem binding_sound_image :
    Segment.parse "@Image('a', 0)" =
        .ok [.call ⟨"Image", [.string "a", .integer 0], "'a', 0", ⟨0, 14⟩, 1⟩] ∧
      BoundAs ⟨[⟨"src", .string⟩, ⟨"width", .float⟩]⟩ [.string "a", .integer 0]
        ⟨1, [.string "a", .float (Double.ofInt 0)]⟩ ∧
      (Registry.empty.registerAll builtins).expand .empty ⟨"Intro", "/intro", none, ⟨"."⟩, 0⟩
        "@Image('a', 0)" = .error (.error (.failed "Image" 1 (.width (Double.ofInt 0)))) ∧
      ∃ values, Refuses .empty ⟨"Intro", "/intro", none, ⟨"."⟩, 0⟩ values
        (.width (Double.ofInt 0)) := by
  have hparse : Segment.parse "@Image('a', 0)" =
      .ok [.call ⟨"Image", [.string "a", .integer 0], "'a', 0", ⟨0, 14⟩, 1⟩] := by cbv
  have hbind : bindArguments ⟨"Image", [.string "a", .integer 0], "'a', 0", ⟨0, 14⟩, 1⟩
      Builtin.image.signatures = .ok ⟨1, [.string "a", .float (Double.ofInt 0)]⟩ := rfl
  have hexpand : (Registry.empty.registerAll builtins).expand .empty
      ⟨"Intro", "/intro", none, ⟨"."⟩, 0⟩ "@Image('a', 0)" =
        .error (.error (.failed "Image" 1 (.width (Double.ofInt 0)))) := by cbv
  have hdistinct := binding_sound.2.1 _ _ _ hparse List.mem_cons_self
  obtain ⟨signature, hsignature, hbound⟩ := binding_sound.1 _ _ _ hdistinct hbind
  cases hsignature
  obtain ⟨_, _, _, bound, -, -, -, -, -, -, hrefuses⟩ := binding_sound.2.2 _ _ _ _ _ _ hexpand
  exact ⟨hparse, hbound, hexpand, bound.values, hrefuses⟩

end Directive

end CourseSite
