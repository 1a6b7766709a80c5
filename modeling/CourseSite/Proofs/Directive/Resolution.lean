/-
  Overload resolution picks the first signature that fits, and says why none does.

  * `AcceptsArguments`, `FitsAt`: the parameters take the arguments, one for each; a signature
    with such parameters fits.
  * `Rejects`: the first argument that the parameters reject.
  * `Explains`: the texts of binding errors, by what is wrong with the signatures.
  * `Searched`, `bindFrom_spec`: the search ends with the least signature that fits, or, if
    there is none, with the cause that stands first.
  * `bindArguments_isLeast_or_explains`: a call is bound under that signature, or the error says
    what is wrong.
-/
import CourseSite.Proofs.Directive.Accepting

namespace CourseSite.Directive

open Attempt (map_eq_ok_iff map_eq_error_iff)

variable {params : List Param} {arguments : List Value} {signature : Signature}
  {signatures : List Signature}

/-! ## Signatures and arguments -/

/-- The parameters accept the arguments: there is one for each, and its type accepts it. -/
def AcceptsArguments (params : List Param) (arguments : List Value) : Prop :=
  List.Forall₂ (fun param value => Accepts param.type value) params arguments

/-- The signature at a position has the right arity and accepts the arguments. -/
def FitsAt (signatures : List Signature) (arguments : List Value) (index : Nat) : Prop :=
  ∃ signature, signatures[index]? = some signature ∧ signature.arity = arguments.length ∧
    AcceptsArguments signature.params arguments

/-- The argument at `index` is the first one that the parameters reject. -/
structure Rejects (params : List Param) (arguments : List Value) (index : Nat) (param : Param)
    (value : Value) : Prop where
  parameter : params[index]? = some param
  argument : arguments[index]? = some value
  earlier : AcceptsArguments (params.take index) (arguments.take index)
  rejected : ¬ Accepts param.type value

/-- The text says what is wrong with the arguments: nothing can be called, no signature has
    their number, or the first signature that has it rejects one of them. -/
inductive Explains (signatures : List Signature) (arguments : List Value) : String → Prop
  | undeclared : signatures = [] →
      Explains signatures arguments
        ("no signatures are declared" ++ ", got " ++ toString arguments.length)
  | arity {declared : List Nat} : signatures ≠ [] →
      (∀ signature ∈ signatures, signature.arity ≠ arguments.length) →
      declared.Pairwise (· < ·) →
      (∀ n, n ∈ declared ↔ ∃ signature ∈ signatures, signature.arity = n) →
      Explains signatures arguments
        ("expects " ++ " or ".intercalate (declared.map toString) ++ " argument(s)" ++
          ", got " ++ toString arguments.length)
  | argument {before after : List Signature} {signature : Signature} {index : Nat}
      {param : Param} {value : Value} {reason : Rejection} :
      signatures = before ++ signature :: after →
      (∀ earlier ∈ before, earlier.arity ≠ arguments.length) →
      signature.arity = arguments.length →
      Rejects signature.params arguments index param value →
      bindValue value param.type = .error reason →
      Explains signatures arguments
        ("argument " ++ toString (index + 1) ++ " `" ++ value.display ++ "` does not match `" ++
          param.display ++ "`: " ++ reason.message)

/-! ## One signature -/

theorem bindParams_ok_iff {start : Nat} (h : params.length = arguments.length) :
    (∃ values, bindParams start params arguments = .ok values) ↔
      AcceptsArguments params arguments := by
  induction params generalizing arguments start with
  | nil =>
    cases arguments with
    | nil => exact ⟨fun _ => .nil, fun _ => ⟨[], rfl⟩⟩
    | cons => cases h
  | cons param params ih =>
    cases arguments with
    | nil => cases h
    | cons value arguments =>
      have hrest := @ih arguments (start + 1) (by simpa using h)
      rw [AcceptsArguments, List.forall₂_cons, ← AcceptsArguments, ← hrest, ← accepts_iff,
        bindParams]
      cases bindValue value param.type <;> simp [map_eq_ok_iff]

/-- What is reported is the first argument that is rejected. -/
theorem bindParams_error {start : Nat} {e : BindingError.Cause}
    (h : bindParams start params arguments = .error e) :
    ∃ index param value reason, e = .argument (start + index) value param reason ∧
      bindValue value param.type = .error reason ∧ Rejects params arguments index param value := by
  induction params generalizing arguments start with
  | nil => cases h
  | cons param params ih =>
    cases arguments with
    | nil => cases h
    | cons value arguments =>
      rw [bindParams] at h
      have haccepts := accepts_iff value param.type
      cases hvalue : bindValue value param.type with
      | error reason =>
        rw [hvalue] at h haccepts
        cases h
        exact ⟨0, param, value, reason, rfl, hvalue, rfl, rfl, .nil,
          fun h => nomatch haccepts.2 h⟩
      | ok bound =>
        rw [hvalue] at h haccepts
        rw [map_eq_error_iff] at h
        obtain ⟨index, param', value', reason, rfl, hreason, hrejects⟩ := ih h
        refine ⟨index + 1, param', value', reason, by rw [Nat.add_right_comm, Nat.add_assoc],
          hreason, hrejects.parameter, hrejects.argument, ?_, hrejects.rejected⟩
        exact .cons (haccepts.1 ⟨bound, rfl⟩) hrejects.earlier

/-! ## The search -/

/-- The cause that the first signature of the right arity gives. -/
def firstCause? (arguments : List Value) (signatures : List Signature) :
    Option BindingError.Cause :=
  (signatures.find? fun signature => signature.arity = arguments.length).bind fun signature =>
    match bindParams 0 signature.params arguments with
    | .ok _ => none
    | .error e => some e

theorem fitsAt_zero : FitsAt (signature :: signatures) arguments 0 ↔
    signature.arity = arguments.length ∧ AcceptsArguments signature.params arguments := by
  simp [FitsAt]

theorem fitsAt_succ {index : Nat} :
    FitsAt (signature :: signatures) arguments (index + 1) ↔ FitsAt signatures arguments index := by
  simp [FitsAt]

/-- How the search from position `start` on ends: with the least signature that fits or, if
    there is none, with the cause met before or else that of the first signature of the right
    arity. -/
def Searched (arguments : List Value) (start : Nat) (cause : Option BindingError.Cause)
    (signatures : List Signature) (result : Except (Option BindingError.Cause) BoundArguments) :
    Prop :=
  (∃ index signature values, result = .ok ⟨start + index, values⟩ ∧
    signatures[index]? = some signature ∧ bindParams 0 signature.params arguments = .ok values ∧
    IsLeast {i | FitsAt signatures arguments i} index) ∨
  (result = .error (cause.or (firstCause? arguments signatures)) ∧
    ∀ i, ¬ FitsAt signatures arguments i)

/-- A signature that does not fit is passed over. -/
theorem Searched.cons {start : Nat} {cause met : Option BindingError.Cause}
    {result : Except (Option BindingError.Cause) BoundArguments}
    (hunfit : ¬ FitsAt (signature :: signatures) arguments 0)
    (hcause : met.or (firstCause? arguments signatures) =
      cause.or (firstCause? arguments (signature :: signatures)))
    (h : Searched arguments (start + 1) met signatures result) :
    Searched arguments start cause (signature :: signatures) result := by
  rcases h with ⟨index, found, values, rfl, hfound, hbind, hfits, hleast⟩ | ⟨rfl, hnone⟩
  · refine .inl ⟨index + 1, found, values, by rw [Nat.add_right_comm, Nat.add_assoc], hfound, hbind,
      fitsAt_succ.2 hfits, fun i hi => ?_⟩
    cases i with
    | zero => exact absurd hi hunfit
    | succ i => exact Nat.succ_le_succ (hleast (fitsAt_succ.1 hi))
  · refine .inr ⟨by rw [hcause], fun i hi => ?_⟩
    cases i with
    | zero => exact hunfit hi
    | succ i => exact hnone i (fitsAt_succ.1 hi)

theorem bindFrom_spec (arguments : List Value) (start : Nat) (cause : Option BindingError.Cause)
    (signatures : List Signature) :
    Searched arguments start cause signatures (bindFrom arguments start cause signatures) := by
  induction signatures generalizing start cause with
  | nil => exact .inr ⟨by simp [bindFrom, firstCause?], fun i => by simp [FitsAt]⟩
  | cons signature signatures ih =>
    rw [bindFrom]
    by_cases harity : signature.arity = arguments.length
    · rw [if_pos harity]
      have hparams := @bindParams_ok_iff _ _ 0 harity
      cases hbind : bindParams 0 signature.params arguments with
      | ok values =>
        have hfits : FitsAt (signature :: signatures) arguments 0 :=
          fitsAt_zero.2 ⟨harity, hparams.1 ⟨values, hbind⟩⟩
        exact .inl ⟨0, signature, values, rfl, rfl, hbind, hfits, fun i _ => Nat.zero_le i⟩
      | error e =>
        -- The search goes on with this cause, unless one was met before.
        refine (ih (start + 1) (cause.or (some e))).cons (fun h => ?_) ?_
        · obtain ⟨values, hvalues⟩ := hparams.2 (fitsAt_zero.1 h).2
          rw [hbind] at hvalues
          cases hvalues
        · have hfirst : firstCause? arguments (signature :: signatures) = some e := by
            simp [firstCause?, harity, hbind]
          rw [hfirst]
          cases cause <;> rfl
    · rw [if_neg harity]
      refine (ih (start + 1) cause).cons (fun h => harity (fitsAt_zero.1 h).1) ?_
      simp [firstCause?, harity]

/-! ## The declared arities -/

/-- One pass over sorted numbers keeps each of them once. -/
theorem eraseReps_loop (a : Nat) (ns acc : List Nat) :
    ∃ kept, List.eraseRepsBy.loop (· == ·) a ns acc = acc.reverse ++ kept ∧
      (∀ n, n ∈ kept ↔ n = a ∨ n ∈ ns) ∧
      ((a :: ns).Pairwise (· ≤ ·) → kept.Pairwise (· < ·)) := by
  induction ns generalizing a acc with
  | nil => exact ⟨[a], by simp [List.eraseRepsBy.loop], by simp, by simp⟩
  | cons b ns ih =>
    by_cases heq : a = b
    · subst heq
      obtain ⟨kept, hloop, hmem, hsorted⟩ := ih a acc
      refine ⟨kept, by simpa [List.eraseRepsBy.loop] using hloop, fun n => ?_, fun h => ?_⟩
      · rw [hmem, List.mem_cons, or_self_left]
      · exact hsorted (List.pairwise_cons.1 h).2
    · obtain ⟨kept, hloop, hmem, hsorted⟩ := ih b (a :: acc)
      refine ⟨a :: kept, ?_, fun n => ?_, fun h => ?_⟩
      · rw [List.eraseRepsBy.loop, beq_eq_false_iff_ne.2 heq, hloop]
        simp
      · rw [List.mem_cons, hmem, List.mem_cons]
      · obtain ⟨hfirst, hrest⟩ := List.pairwise_cons.1 h
        refine List.pairwise_cons.2 ⟨fun n hn => ?_, hsorted hrest⟩
        have hab := Nat.lt_of_le_of_ne (hfirst b List.mem_cons_self) heq
        rcases (hmem n).1 hn with rfl | hn
        · exact hab
        · exact Nat.lt_of_lt_of_le hab ((List.pairwise_cons.1 hrest).1 n hn)

/-- The declared arities are exactly those of the signatures, each once, in ascending order. -/
theorem arities_spec (signatures : List Signature) :
    (arities signatures).Pairwise (· < ·) ∧
      ∀ n, n ∈ arities signatures ↔ ∃ signature ∈ signatures, signature.arity = n := by
  have hsorted : ((signatures.map Signature.arity).mergeSort (· ≤ ·)).Pairwise (· ≤ ·) :=
    List.pairwise_mergeSort' _ _
  have hmem (n : Nat) : n ∈ (signatures.map Signature.arity).mergeSort (· ≤ ·) ↔
      ∃ signature ∈ signatures, signature.arity = n := by
    rw [List.mem_mergeSort, List.mem_map]
  unfold arities
  cases hns : (signatures.map Signature.arity).mergeSort (· ≤ ·) with
  | nil =>
    simp only [hns] at hmem
    exact ⟨.nil, hmem⟩
  | cons a ns =>
    rw [hns] at hsorted
    simp only [hns] at hmem
    obtain ⟨kept, hloop, hkept, hpairwise⟩ := eraseReps_loop a ns []
    rw [List.eraseReps, List.eraseRepsBy, hloop, List.reverse_nil, List.nil_append]
    refine ⟨hpairwise hsorted, fun n => ?_⟩
    rw [hkept, ← hmem, List.mem_cons]

/-! ## Calls -/

namespace BindingError.Cause

theorem message_undeclared (given : Nat) :
    (arity [] given).message = "no signatures are declared" ++ ", got " ++ toString given := rfl

theorem message_arity (n : Nat) (ns : List Nat) (given : Nat) :
    (arity (n :: ns) given).message = "expects " ++ " or ".intercalate ((n :: ns).map toString) ++
      " argument(s)" ++ ", got " ++ toString given := rfl

theorem message_argument (index : Nat) (value : Value) (param : Param) (reason : Rejection) :
    (argument index value param reason).message =
      "argument " ++ toString (index + 1) ++ " `" ++ value.display ++ "` does not match `" ++
        param.display ++ "`: " ++ reason.message := rfl

end BindingError.Cause

/-- Without a signature of the right arity the text lists the arities there are. -/
theorem explains_arities
    (h : ∀ signature ∈ signatures, signature.arity ≠ arguments.length) :
    Explains signatures arguments
      (BindingError.Cause.arity (arities signatures) arguments.length).message := by
  obtain ⟨hsorted, hmem⟩ := arities_spec signatures
  cases hdeclared : arities signatures with
  | nil =>
    rw [BindingError.Cause.message_undeclared]
    refine .undeclared (List.eq_nil_iff_forall_not_mem.2 fun signature hsignature => ?_)
    have := (hmem signature.arity).2 ⟨signature, hsignature, rfl⟩
    rw [hdeclared] at this
    cases this
  | cons n ns =>
    have hne : signatures ≠ [] := by
      obtain ⟨signature, hsignature, -⟩ := (hmem n).1 (hdeclared ▸ List.mem_cons_self)
      exact List.ne_nil_of_mem hsignature
    rw [BindingError.Cause.message_arity, ← hdeclared]
    exact .arity hne h hsorted hmem

/-- The first signature of the right arity names the first argument that it rejects. -/
theorem explains_argument {before after : List Signature}
    (hsignatures : signatures = before ++ signature :: after)
    (hbefore : ∀ earlier ∈ before, earlier.arity ≠ arguments.length)
    (harity : signature.arity = arguments.length)
    (hunfit : ¬ AcceptsArguments signature.params arguments) :
    ∃ e, bindParams 0 signature.params arguments = .error e ∧
      Explains signatures arguments e.message := by
  cases hbind : bindParams 0 signature.params arguments with
  | ok values => exact absurd ((bindParams_ok_iff harity).1 ⟨values, hbind⟩) hunfit
  | error e =>
    obtain ⟨index, param, value, reason, rfl, hreason, hrejects⟩ := bindParams_error hbind
    refine ⟨_, rfl, ?_⟩
    rw [BindingError.Cause.message_argument, Nat.zero_add]
    exact .argument hsignatures hbefore harity hrejects hreason

/-- If no signature fits, the text of the error explains it. -/
theorem explains_of_unfit (h : ∀ i, ¬ FitsAt signatures arguments i) :
    Explains signatures arguments
      ((firstCause? arguments signatures).getD
        (.arity (arities signatures) arguments.length)).message := by
  cases hfind : signatures.find? fun signature => signature.arity = arguments.length with
  | none =>
    rw [firstCause?, hfind, Option.bind_none, Option.getD_none]
    exact explains_arities (by simpa using List.find?_eq_none.1 hfind)
  | some signature =>
    obtain ⟨harity, before, after, hsignatures, hbefore⟩ := List.find?_eq_some_iff_append.1 hfind
    rw [decide_eq_true_eq] at harity
    have hunfit : ¬ AcceptsArguments signature.params arguments := fun haccepts =>
      h before.length ⟨signature, by simp [hsignatures], harity, haccepts⟩
    obtain ⟨e, hbind, hexplains⟩ :=
      explains_argument hsignatures (by simpa using hbefore) harity hunfit
    rw [firstCause?, hfind, Option.bind_some, hbind, Option.getD_some]
    exact hexplains

/-- **Overload resolution follows the table.** A call is bound under the signature at a position
    just if that is the least one of the right arity whose types accept every argument. If there
    is none, the error stands at the call and explains what is wrong with the first signature
    of the right arity, or that there is no such signature. -/
theorem bindArguments_isLeast_or_explains (call : Call) (signatures : List Signature) :
    (∀ index, (∃ values, bindArguments call signatures = .ok ⟨index, values⟩) ↔
      IsLeast {i | FitsAt signatures call.arguments i} index) ∧
    ((∀ i, ¬ FitsAt signatures call.arguments i) →
      ∃ e, bindArguments call signatures = .error e ∧ e.directive = call.name ∧
        e.line = call.line ∧ Explains signatures call.arguments e.cause.message) := by
  rcases bindFrom_spec call.arguments 0 none signatures with
    ⟨least, _, values, hbind, -, -, hleast⟩ | ⟨hbind, hnone⟩
  · rw [Nat.zero_add] at hbind
    have hbound : bindArguments call signatures = .ok ⟨least, values⟩ := by
      rw [bindArguments, hbind]
    refine ⟨fun index => ⟨?_, fun h => ?_⟩, fun h => absurd hleast.1 (h least)⟩
    · rintro ⟨values', h⟩
      rw [hbound] at h
      cases h
      exact hleast
    · rw [← hleast.unique h]
      exact ⟨values, hbound⟩
  · have hbound : bindArguments call signatures = .error ⟨call.name, call.line,
        (firstCause? call.arguments signatures).getD
          (.arity (arities signatures) call.arguments.length)⟩ := by
      rw [bindArguments, hbind, Option.none_or]
    refine ⟨fun index => ⟨?_, fun h => absurd h.1 (hnone index)⟩, fun _ => ?_⟩
    · rintro ⟨values, h⟩
      rw [hbound] at h
      cases h
    · exact ⟨_, hbound, rfl, rfl, explains_of_unfit hnone⟩

/-- The first signature has the wrong arity, the second one the wrong type. -/
theorem bindArguments_isLeast_or_explains_note :
    bindArguments ⟨"Note", [.bool true], "true", ⟨0, 10⟩, 4⟩ [⟨[]⟩, ⟨[⟨"text", .string⟩]⟩] =
        .error ⟨"Note", 4, .argument 0 (.bool true) ⟨"text", .string⟩ (.kind .string .bool)⟩ ∧
      Explains [⟨[]⟩, ⟨[⟨"text", .string⟩]⟩] [.bool true]
        "argument 1 `true` does not match `text: String`: expected String, found Bool" := by
  have hunfit : ∀ i, ¬ FitsAt [⟨[]⟩, ⟨[⟨"text", .string⟩]⟩] [.bool true] i := by
    rintro (_ | _ | i) ⟨signature, hsignature, harity, haccepts⟩
    · cases hsignature
      cases harity
    · cases hsignature
      obtain ⟨⟩ := haccepts
      contradiction
    · cases hsignature
  have hbind : bindArguments ⟨"Note", [.bool true], "true", ⟨0, 10⟩, 4⟩
      [⟨[]⟩, ⟨[⟨"text", .string⟩]⟩] =
        .error ⟨"Note", 4, .argument 0 (.bool true) ⟨"text", .string⟩ (.kind .string .bool)⟩ := rfl
  obtain ⟨e, he, -, -, hexplains⟩ :=
    (bindArguments_isLeast_or_explains ⟨"Note", [.bool true], "true", ⟨0, 10⟩, 4⟩ _).2 hunfit
  rw [hbind] at he
  cases he
  exact ⟨hbind, hexplains⟩

end CourseSite.Directive
