/-
  An expansion stops short only at a call.

  * `mem_of_resolve?`: what a name resolves to is one of the extensions that were registered.
  * `expand_eq_ok_iff`, `expandSegments_call_eq_ok_iff`: a document is expanded if it is read and all
    its calls are replaced.
  * `exists_call_of_expandSegments`: a document that is not expanded has a call that stops it.
  * `invoke_eq_ok_iff`: a call that is replaced was bound, and its extension replied with the text.
  * `reply_of_invoke`: a refused call was bound, and it is its extension that refuses it.
-/
import CourseSite.Proofs.Directive.Parse
import CourseSite.Directive.Registry

namespace CourseSite.Directive

namespace Registry

variable {registry : Registry} {extensions : List Extension} {extension : Extension}
  {fs : FileSystem} {page : PageInfo}

/-! ## Registration -/

theorem mem_putEntry {key : String} {entries : List (String × Extension)}
    {entry : String × Extension} (h : entry ∈ putEntry key extension entries) :
    entry.2 = extension ∨ entry ∈ entries := by
  induction entries with
  | nil =>
    rw [putEntry, List.mem_singleton] at h
    exact .inl (h ▸ rfl)
  | cons first entries ih =>
    obtain ⟨other, old⟩ := first
    rw [putEntry] at h
    split at h
    · rcases List.mem_cons.1 h with rfl | h
      · exact .inl rfl
      · exact .inr (List.mem_cons_of_mem _ h)
    · rcases List.mem_cons.1 h with rfl | h
      · exact .inr List.mem_cons_self
      · exact (ih h).imp_right (List.mem_cons_of_mem _)

theorem mem_registerAll {entry : String × Extension}
    (h : entry ∈ (registry.registerAll extensions).entries) :
    entry.2 ∈ extensions ∨ entry ∈ registry.entries := by
  induction extensions generalizing registry with
  | nil => exact .inr h
  | cons extension extensions ih =>
    rcases ih h with h | h
    · exact .inl (List.mem_cons_of_mem _ h)
    · rcases mem_putEntry h with rfl | h
      · exact .inl List.mem_cons_self
      · exact .inr h

/-- What a name resolves to was registered. -/
theorem mem_of_resolve? {name : String}
    (h : (empty.registerAll extensions).resolve? name = some extension) :
    extension ∈ extensions := by
  obtain ⟨entry, hentry, rfl⟩ := Option.map_eq_some_iff.1 h
  rcases mem_registerAll (List.mem_of_find?_eq_some hentry) with h | h
  · exact h
  · cases h

/-! ## Documents -/

theorem expandSegments_call_eq_ok_iff {segments : List Segment} {call : Call} {text : String} :
    registry.expandSegments fs page (.call call :: segments) = .ok text ↔ ∃ first behind,
      registry.invoke fs page call = .ok first ∧
        registry.expandSegments fs page segments = .ok behind ∧ first ++ behind = text := by
  rw [expandSegments]
  cases registry.invoke fs page call <;> simp [Attempt.map_eq_ok_iff]

theorem expand_eq_ok_iff {source text : String} : registry.expand fs page source = .ok text ↔
    ∃ segments, Segment.parse source = .ok segments ∧
      registry.expandSegments fs page segments = .ok text := by
  rw [expand]
  cases Segment.parse source <;> simp

/-! ## Calls -/

/-- An expansion that stops short stops at a call. -/
theorem exists_call_of_expandSegments {segments : List Segment} {interruption : Interruption}
    (h : registry.expandSegments fs page segments = .error interruption) :
    ∃ call ∈ Segment.calls segments, registry.invoke fs page call = .error interruption := by
  induction segments with
  | nil => cases h
  | cons segment segments ih =>
    cases segment with
    | literal text =>
      rw [expandSegments, Attempt.map_eq_error_iff] at h
      exact ih h
    | call call =>
      have hcalls : Segment.calls (.call call :: segments) = call :: Segment.calls segments := rfl
      rw [hcalls]
      rw [expandSegments] at h
      cases hinvoke : registry.invoke fs page call with
      | error interruption' =>
        rw [hinvoke] at h
        cases h
        exact ⟨call, List.mem_cons_self, hinvoke⟩
      | ok text =>
        rw [hinvoke, Attempt.map_eq_error_iff] at h
        obtain ⟨later, hlater, hfails⟩ := ih h
        exact ⟨later, List.mem_cons_of_mem _ hlater, hfails⟩

/-- A call is replaced if it is bound and its extension replies with a text. -/
theorem invoke_eq_ok_iff {call : Call} {text : String} :
    registry.invoke fs page call = .ok text ↔ ∃ extension bound,
      registry.resolve? call.name = some extension ∧
      bindArguments call extension.signatures = .ok bound ∧
      extension.reply fs { page with line := call.line } bound = .text text := by
  rw [invoke]
  cases registry.resolve? call.name with
  | none => simp
  | some extension =>
    dsimp only
    cases hbind : bindArguments call extension.signatures with
    | error e => simp [hbind]
    | ok bound =>
      dsimp only
      cases hreply : extension.reply fs { page with line := call.line } bound <;>
        simp [hbind, hreply]

/-- A call that its extension refuses was bound. -/
theorem reply_of_invoke {call : Call} {name : String} {line : Nat} {failure : Failure}
    (h : registry.invoke fs page call = .error (.error (.failed name line failure))) :
    call.name = name ∧ call.line = line ∧ ∃ extension bound,
      registry.resolve? call.name = some extension ∧
      bindArguments call extension.signatures = .ok bound ∧
      extension.reply fs { page with line := call.line } bound = .failure failure := by
  rw [invoke] at h
  cases hresolve : registry.resolve? call.name with
  | none => rw [hresolve] at h; cases h
  | some extension =>
    rw [hresolve] at h
    dsimp only at h
    cases hbind : bindArguments call extension.signatures with
    | error e => rw [hbind] at h; cases h
    | ok bound =>
      rw [hbind] at h
      dsimp only at h
      cases hreply : extension.reply fs { page with line := call.line } bound with
      | text text => rw [hreply] at h; cases h
      | crash => rw [hreply] at h; cases h
      | failure reason =>
        rw [hreply] at h
        cases h
        exact ⟨rfl, rfl, extension, bound, rfl, hbind, hreply⟩

end Registry

end CourseSite.Directive
