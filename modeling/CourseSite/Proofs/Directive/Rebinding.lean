/-
  Binding what was bound changes nothing.

  * `bindValue_of_hasType`: a value that has a type is bound to it as it is.
  * `accepts_of_widens`: a type that accepts a value after some of its integers were widened
    accepts it before; so widening makes no signature fit that did not fit.
  * `bindArguments_idempotent`: hence bound arguments choose the same signature again, and stay
    what they are.
-/
import CourseSite.Proofs.Directive.Typing

namespace CourseSite.Directive

variable {type element : ParamType} {value widened : Value} {params : List Param}
  {arguments values : List Value} {signatures : List Signature}

/-! ## Values that have their type -/

theorem bindItems_eq_self {items : List Value} (index : Nat)
    (h : ∀ item ∈ items, bindValue item element = .ok item) :
    bindItems element index items = .ok items := by
  induction items generalizing index with
  | nil => rw [bindItems]
  | cons item items ih =>
    rw [List.forall_mem_cons] at h
    rw [bindItems, h.1]
    dsimp only
    rw [ih (index + 1) h.2]
    rfl

theorem bindFields_eq_self {record : String} {schema : List Field} {fields : Fields Value}
    (hknown : ∀ key ∈ fields.keys, (fieldNamed? schema key).isSome = true)
    (h : ∀ pair ∈ fields, ∀ field, fieldNamed? schema pair.1 = some field →
      bindValue pair.2 field.type = .ok pair.2) :
    bindFields record schema fields = .ok fields := by
  induction fields with
  | nil => rw [bindFields]
  | cons pair fields ih =>
    obtain ⟨key, value⟩ := pair
    rw [Fields.keys, List.map_cons, List.forall_mem_cons] at hknown
    rw [List.forall_mem_cons] at h
    obtain ⟨field, hfield⟩ := Option.isSome_iff_exists.1 hknown.1
    dsimp only at hfield
    rw [bindFields, hfield]
    dsimp only
    rw [h.1 field hfield]
    dsimp only
    rw [ih hknown.2 h.2]
    rfl

/-- **A value that has a type is bound to it as it is.** -/
theorem bindValue_of_hasType (h : HasType type value) : bindValue value type = .ok value := by
  induction h with
  | string | integer | float | bool => rw [bindValue]
  | array _ ih =>
    rw [bindValue, bindItems_eq_self 0 ih]
    rfl
  | record hnodup hkeys _ ih =>
    rw [bindValue, keyFault?_eq_none_iff.2 hkeys]
    dsimp only
    rw [bindFields_eq_self hkeys.known ih, Except.map, Fields.collect_eq_self hnodup]

theorem bindParams_of_hasType (start : Nat)
    (h : List.Forall₂ (fun param value => HasType param.type value) params values) :
    bindParams start params values = .ok values := by
  induction h generalizing start with
  | nil => rfl
  | cons hvalue _ ih =>
    rw [bindParams, bindValue_of_hasType hvalue]
    dsimp only
    rw [ih (start + 1)]
    rfl

/-! ## Values that were widened -/

theorem exists_mem_of_forall₂ {α β : Type} {R : α → β → Prop} {as : List α} {bs : List β}
    (h : List.Forall₂ R as bs) {a : α} (ha : a ∈ as) : ∃ b ∈ bs, R a b := by
  induction h with
  | nil => cases ha
  | cons hfirst _ ih =>
    rcases List.mem_cons.1 ha with rfl | ha
    · exact ⟨_, List.mem_cons_self, hfirst⟩
    · obtain ⟨b, hb, hab⟩ := ih ha
      exact ⟨b, List.mem_cons_of_mem _ hb, hab⟩

/-- Every field was widened under its key. -/
theorem forall₂_fields {fields widened : Fields Value} (hkeys : widened.keys = fields.keys)
    (h : List.Forall₂ Widens (fields.map (·.2)) (widened.map (·.2))) :
    List.Forall₂ (fun pair pair' => pair'.1 = pair.1 ∧ Widens pair.2 pair'.2) fields widened := by
  rw [Fields.keys, Fields.keys, ← List.forall₂_eq_eq_eq, List.forall₂_map_left_iff,
    List.forall₂_map_right_iff] at hkeys
  rw [List.forall₂_map_left_iff, List.forall₂_map_right_iff] at h
  exact hkeys.flip.mp (fun _ _ => And.intro) h

/-- **What a type accepts after widening it accepts before.** -/
theorem accepts_of_widens (hwidens : Widens value widened) (h : Accepts type widened) :
    Accepts type value := by
  induction h generalizing value with
  | string => cases hwidens; exact .string
  | integer => cases hwidens; exact .integer
  | float =>
    cases hwidens with
    | float => exact .float
    | widened => exact .widened
  | bool => cases hwidens; exact .bool
  | widened => cases hwidens; exact .widened
  | array _ ih =>
    cases hwidens with
    | array hitems =>
      refine .array fun item hitem => ?_
      obtain ⟨item', hitem', hwidens⟩ := exists_mem_of_forall₂ hitems hitem
      exact ih item' hitem' hwidens
  | record hfit _ ih =>
    cases hwidens with
    | object hkeys hvalues =>
      refine .record (hfit.congr hkeys.symm) fun pair hpair field hfield => ?_
      obtain ⟨pair', hpair', hkey, hwidens⟩ :=
        exists_mem_of_forall₂ (forall₂_fields hkeys hvalues) hpair
      exact ih pair' hpair' field (hkey ▸ hfield) hwidens

theorem acceptsArguments_of_widens (hwidens : List.Forall₂ Widens arguments values)
    (h : AcceptsArguments params values) : AcceptsArguments params arguments := by
  induction h generalizing arguments with
  | nil =>
    cases hwidens
    exact .nil
  | cons hvalue _ ih =>
    cases hwidens with
    | cons hfirst hrest => exact .cons (accepts_of_widens hfirst hvalue) (ih hrest)

/-- A signature that fits after the widening fits before. -/
theorem fitsAt_of_widens (hwidens : List.Forall₂ Widens arguments values) {index : Nat}
    (h : FitsAt signatures values index) : FitsAt signatures arguments index := by
  obtain ⟨signature, hsignature, harity, haccepts⟩ := h
  exact ⟨signature, hsignature, harity.trans hwidens.length_eq.symm,
    acceptsArguments_of_widens hwidens haccepts⟩

/-! ## Calls -/

/-- The values that a signature bound fit it, and are bound to themselves. -/
theorem fitsAt_of_typed {signature : Signature} {index : Nat}
    (hsignature : signatures[index]? = some signature)
    (h : List.Forall₂ (fun param value => HasType param.type value) signature.params values) :
    FitsAt signatures values index :=
  ⟨signature, hsignature, h.length_eq,
    (bindParams_ok_iff h.length_eq).1 ⟨values, bindParams_of_hasType 0 h⟩⟩

/-- The search ends with the least signature that fits. -/
theorem bindFrom_of_isLeast {signature : Signature} {index : Nat}
    (hsignature : signatures[index]? = some signature)
    (hbind : bindParams 0 signature.params arguments = .ok values)
    (hleast : IsLeast {i | FitsAt signatures arguments i} index) :
    bindFrom arguments 0 none signatures = .ok ⟨index, values⟩ := by
  rcases bindFrom_spec arguments 0 none signatures with
    ⟨index', signature', values', hfrom, hsignature', hbind', hleast'⟩ | ⟨-, hnone⟩
  · obtain rfl := hleast'.unique hleast
    rw [hsignature] at hsignature'
    cases hsignature'
    rw [hbind] at hbind'
    cases hbind'
    rw [hfrom, Nat.zero_add]
  · exact absurd hleast.1 (hnone index)

/-- **Binding is idempotent.**  A call that is bound is bound in the same way when its arguments
    are the values that they were bound to: under the same signature, to the same values; for no
    signature accepts the values that does not accept the arguments.  It is asked that no object of
    the arguments holds a key twice, as it is in every call of a document. -/
theorem bindArguments_idempotent :
    (∀ (call : Call) (signatures : List Signature) (bound : BoundArguments),
      (∀ value ∈ call.arguments, value.Distinct) → bindArguments call signatures = .ok bound →
      bindArguments { call with arguments := bound.values } signatures = .ok bound ∧
        ∀ index, FitsAt signatures bound.values index →
          FitsAt signatures call.arguments index) ∧
    ∀ (source : String) (segments : List Segment) (call : Call),
      Segment.parse source = .ok segments → call ∈ Segment.calls segments →
      ∀ value ∈ call.arguments, value.Distinct := by
  refine ⟨fun call signatures bound hdistinct h => ?_, fun _ _ _ => distinct_of_parse⟩
  rw [bindArguments] at h
  rcases bindFrom_spec call.arguments 0 none signatures with
    ⟨index, signature, values, hfrom, hsignature, hparams, hfits, hleast⟩ | ⟨hfrom, -⟩
  · rw [hfrom, Nat.zero_add] at h
    cases h
    obtain ⟨signature', hsignature', harity, -⟩ := hfits
    rw [hsignature] at hsignature'
    cases hsignature'
    obtain ⟨htyped, hwidens⟩ := typed_of_bindParams harity hdistinct hparams
    have hbefore (i : Nat) (hi : FitsAt signatures values i) :
        FitsAt signatures call.arguments i := fitsAt_of_widens hwidens hi
    have hagain : IsLeast {i | FitsAt signatures values i} index :=
      ⟨fitsAt_of_typed hsignature htyped, fun i hi => hleast (hbefore i hi)⟩
    refine ⟨?_, hbefore⟩
    rw [bindArguments, bindFrom_of_isLeast hsignature (bindParams_of_hasType 0 htyped) hagain]
  · rw [hfrom] at h
    cases h

/-! ## A call with integers and a double -/

namespace Plot

/-- Points with integers, and a double. -/
def call : Call :=
  ⟨"Plot", [.object [("at", .array [.array [.integer 1], .array []])], .float (Double.ofInt 2)],
    "\x7bat: [[1], []]\x7d, 2.0", ⟨0, 27⟩, 1⟩

/-- Points over a type of numbers, and a number of this type. -/
def signature (number : ParamType) : Signature :=
  ⟨[⟨"points", .record "Points" [⟨"at", .array (.array number), true⟩]⟩, ⟨"scale", number⟩]⟩

/-- What the arguments are bound to. -/
def bound : BoundArguments :=
  ⟨1, [.object [("at", .array [.array [.float (Double.ofInt 1)], .array []])],
    .float (Double.ofInt 2)]⟩

end Plot

open Plot in
/-- The first signature wants integers and does not fit, on account of the double; it does not fit
    either when the integers have been widened. -/
theorem bindArguments_idempotent_plot :
    Segment.parse "@Plot(\x7bat: [[1], []]\x7d, 2.0)" = .ok [.call call] ∧
      bindArguments call [signature .integer, signature .float] = .ok bound ∧
      bindArguments { call with arguments := bound.values } [signature .integer, signature .float] =
        .ok bound := by
  have hparse : Segment.parse "@Plot(\x7bat: [[1], []]\x7d, 2.0)" = .ok [.call call] := by cbv
  have hbind : bindArguments call [signature .integer, signature .float] = .ok bound := rfl
  have hdistinct := bindArguments_idempotent.2 _ _ _ hparse List.mem_cons_self
  exact ⟨hparse, hbind, (bindArguments_idempotent.1 _ _ _ hdistinct hbind).1⟩

end CourseSite.Directive
