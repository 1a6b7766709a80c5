/-
  Bound arguments have their declared types.

  * `Value.Distinct`: no object holds a key twice, at any depth; so it is in every call of a
    document.
  * `HasType`: the values of a type, at every depth.
  * `Widens`: a value and the same value with some integers as doubles; lengths, orders and
    keys stay.
  * `typed_of_bindValue`: what is bound has the type and widens the argument.
  * `BoundAs`: the same for all arguments of a call, and that every accessor succeeds.
-/
import CourseSite.Proofs.Directive.Parse
import CourseSite.Proofs.Directive.Resolution
import CourseSite.Directive.Arguments

namespace CourseSite.Directive

open Fields (collect_eq_self)
open Attempt (map_eq_ok_iff)
open Grammar (Listed Denotes)

/-! ## Distinct keys -/

/-- No object holds a key twice, at any depth. -/
inductive Value.Distinct : Value → Prop
  | string {text : String} : Distinct (.string text)
  | integer {n : Int64} : Distinct (.integer n)
  | float {x : Double} : Distinct (.float x)
  | bool {b : Bool} : Distinct (.bool b)
  | object {fields : List (String × Value)} : (Fields.keys fields).Nodup →
      (∀ pair ∈ fields, Distinct pair.2) → Distinct (.object fields)
  | array {items : List Value} : (∀ item ∈ items, Distinct item) → Distinct (.array items)

/-- The text of an entry stands in the text of the list. -/
theorem exists_infix_of_listed {α : Type} {Entry : List Char → α → Prop} {cs : List Char}
    {entries : List α} (h : Listed Entry cs entries) :
    ∀ a ∈ entries, ∃ entry, Entry entry a ∧ entry <:+: cs := by
  induction h with
  | none => exact fun _ h => absurd h List.not_mem_nil
  | @last before entry behind a _ hentry => simpa using ⟨entry, hentry, before, behind, by simp⟩
  | @more before entry behind cs a _ _ hentry _ _ ih =>
    refine List.forall_mem_cons.2 ⟨⟨entry, hentry, before, behind ++ ',' :: cs, by simp⟩, ?_⟩
    intro a' ha'
    obtain ⟨entry', hentry', hin⟩ := ih a' ha'
    exact ⟨entry', hentry', hin.trans ⟨before ++ entry ++ behind ++ [','], [], by simp⟩⟩

theorem exists_entry_of_listed {α : Type} {Entry : List Char → α → Prop} {cs : List Char}
    {entries : List α} (h : Listed Entry cs entries) : ∀ a ∈ entries, ∃ entry, Entry entry a :=
  fun a ha => (exists_infix_of_listed h a ha).imp fun _ => And.left

/-- The keys of a literal are distinct. -/
theorem distinct_of_denotes {cs : List Char} {value : Value} (h : Denotes cs value) :
    value.Distinct := by
  cases h with
  | string => exact .string
  | number h => cases h <;> constructor
  | truth h => cases h <;> constructor
  | object hfields hnodup =>
    refine .object hnodup fun pair hpair => ?_
    obtain ⟨entry, hentry⟩ := exists_entry_of_listed hfields pair hpair
    obtain ⟨_, _, _, hvalue⟩ := hentry
    have hsize := List.sizeOf_lt_of_mem hpair
    exact distinct_of_denotes hvalue
  | array hitems =>
    refine .array fun item hitem => ?_
    obtain ⟨entry, hentry⟩ := exists_entry_of_listed hitems item hitem
    exact distinct_of_denotes hentry
termination_by value
decreasing_by
  · simp only [Prod.mk.sizeOf_spec, Value.object.sizeOf_spec] at hsize ⊢
    omega
  · have hsize := List.sizeOf_lt_of_mem hitem
    simp only [Value.array.sizeOf_spec]
    omega

/-- The arguments of every call of a document have distinct keys. -/
theorem distinct_of_parse {source : String} {segments : List Segment} {call : Call}
    (h : Segment.parse source = .ok segments) (hcall : call ∈ Segment.calls segments) :
    ∀ value ∈ call.arguments, value.Distinct := by
  obtain ⟨_, _, _, hcall⟩ := ((Segment.parse_eq_iff _ _).1 h).isCall rfl call hcall
  intro value hvalue
  obtain ⟨entry, hentry⟩ :=
    exists_entry_of_listed (listed_of_parseArguments hcall.arguments) value hvalue
  exact distinct_of_denotes hentry

/-! ## Types -/

/-- The value has the type at every depth; a double is needed where a double is declared. -/
inductive HasType : ParamType → Value → Prop
  | string {text : String} : HasType .string (.string text)
  | integer {n : Int64} : HasType .integer (.integer n)
  | float {x : Double} : HasType .float (.float x)
  | bool {b : Bool} : HasType .bool (.bool b)
  | array {element : ParamType} {items : List Value} :
      (∀ item ∈ items, HasType element item) → HasType (.array element) (.array items)
  | record {name : String} {schema : List Field} {fields : List (String × Value)} :
      (Fields.keys fields).Nodup → KeysFit schema fields →
      (∀ pair ∈ fields, ∀ field, fieldNamed? schema pair.1 = some field →
        HasType field.type pair.2) →
      HasType (.record name schema) (.object fields)

/-- The same value with some integers as doubles: the items of an array stay in their order, and
    so do the keys of an object. -/
inductive Widens : Value → Value → Prop
  | string {text : String} : Widens (.string text) (.string text)
  | integer {n : Int64} : Widens (.integer n) (.integer n)
  | float {x : Double} : Widens (.float x) (.float x)
  | bool {b : Bool} : Widens (.bool b) (.bool b)
  | widened {n : Int64} : Widens (.integer n) (.float (Double.ofInt n.toInt))
  | array {items bound : List Value} : List.Forall₂ Widens items bound →
      Widens (.array items) (.array bound)
  | object {fields bound : List (String × Value)} : Fields.keys bound = Fields.keys fields →
      List.Forall₂ Widens (fields.map (·.2)) (bound.map (·.2)) →
      Widens (.object fields) (.object bound)

theorem KeysFit.congr {schema : List Field} {fields bound : Fields Value}
    (h : KeysFit schema fields) (hkeys : bound.keys = fields.keys) : KeysFit schema bound where
  known := hkeys ▸ h.known
  present := hkeys ▸ h.present

/-! ## Binding -/

mutual

/-- **What is bound to a type has the type**, and it is the value with integers widened. -/
theorem typed_of_bindValue : ∀ (value : Value) (type : ParamType) (bound : Value),
    value.Distinct → bindValue value type = .ok bound → HasType type bound ∧ Widens value bound
  | .string text, type, bound, hdistinct, h => by
    cases type <;> cases h
    exact ⟨.string, .string⟩
  | .integer n, type, bound, hdistinct, h => by
    cases type <;> cases h
    · exact ⟨.integer, .integer⟩
    · exact ⟨.float, .widened⟩
  | .float x, type, bound, hdistinct, h => by
    cases type <;> cases h
    exact ⟨.float, .float⟩
  | .bool b, type, bound, hdistinct, h => by
    cases type <;> cases h
    exact ⟨.bool, .bool⟩
  | .array items, type, bound, hdistinct, h => by
    cases type with
    | array element =>
      rw [bindValue, map_eq_ok_iff] at h
      obtain ⟨values, hvalues, rfl⟩ := h
      cases hdistinct with
      | array hdistinct =>
        obtain ⟨htyped, hwidens⟩ := typed_of_bindItems element items 0 values hdistinct hvalues
        exact ⟨.array htyped, .array hwidens⟩
    | _ => cases h
  | .object fields, type, bound, hdistinct, h => by
    cases type with
    | record name schema =>
      rw [bindValue] at h
      cases hfault : keyFault? name schema fields with
      | some fault => rw [hfault] at h; cases h
      | none =>
        rw [hfault, map_eq_ok_iff] at h
        obtain ⟨values, hvalues, rfl⟩ := h
        cases hdistinct with
        | object hnodup hdistinct =>
          obtain ⟨hkeys, htyped, hwidens⟩ :=
            typed_of_bindFields name schema fields values hdistinct hvalues
          -- No field is lost when the bound pairs are collected, since no key stands twice.
          rw [← hkeys] at hnodup
          have hfit := (keyFault?_eq_none_iff.1 hfault).congr hkeys
          rw [collect_eq_self hnodup]
          exact ⟨.record hnodup hfit htyped, .object hkeys hwidens⟩
    | _ => cases h

theorem typed_of_bindItems (element : ParamType) : ∀ (items : List Value) (index : Nat)
    (bound : List Value), (∀ item ∈ items, item.Distinct) →
    bindItems element index items = .ok bound →
    (∀ item ∈ bound, HasType element item) ∧ List.Forall₂ Widens items bound
  | [], index, bound, hdistinct, h => by
    rw [bindItems] at h
    cases h
    exact ⟨nofun, .nil⟩
  | item :: items, index, bound, hdistinct, h => by
    rw [bindItems] at h
    cases hitem : bindValue item element with
    | error reason => rw [hitem] at h; cases h
    | ok value =>
      rw [hitem, map_eq_ok_iff] at h
      obtain ⟨values, hvalues, rfl⟩ := h
      rw [List.forall_mem_cons] at hdistinct
      have hfirst := typed_of_bindValue item element value hdistinct.1 hitem
      have hrest := typed_of_bindItems element items (index + 1) values hdistinct.2 hvalues
      exact ⟨List.forall_mem_cons.2 ⟨hfirst.1, hrest.1⟩, .cons hfirst.2 hrest.2⟩

theorem typed_of_bindFields (record : String) (schema : List Field) :
    ∀ (fields bound : List (String × Value)), (∀ pair ∈ fields, pair.2.Distinct) →
    bindFields record schema fields = .ok bound →
    Fields.keys bound = Fields.keys fields ∧
    (∀ pair ∈ bound, ∀ field, fieldNamed? schema pair.1 = some field →
      HasType field.type pair.2) ∧
    List.Forall₂ Widens (fields.map (·.2)) (bound.map (·.2))
  | [], bound, hdistinct, h => by
    rw [bindFields] at h
    cases h
    exact ⟨rfl, nofun, .nil⟩
  | (key, value) :: fields, bound, hdistinct, h => by
    rw [bindFields] at h
    cases hfield : fieldNamed? schema key with
    | none => rw [hfield] at h; cases h
    | some field =>
      rw [hfield] at h
      dsimp only at h
      cases hvalue : bindValue value field.type with
      | error reason => rw [hvalue] at h; cases h
      | ok value' =>
        rw [hvalue, map_eq_ok_iff] at h
        obtain ⟨values, hvalues, rfl⟩ := h
        rw [List.forall_mem_cons] at hdistinct
        have hfirst := typed_of_bindValue value field.type value' hdistinct.1 hvalue
        obtain ⟨hkeys, htyped, hwidens⟩ :=
          typed_of_bindFields record schema fields values hdistinct.2 hvalues
        refine ⟨congrArg (key :: ·) hkeys,
          List.forall_mem_cons.2 ⟨fun field' hfield' => ?_, htyped⟩, .cons hfirst.2 hwidens⟩
        rw [hfield] at hfield'
        cases hfield'
        exact hfirst.1

end

theorem typed_of_bindParams {params : List Param} {arguments : List Value} {start : Nat}
    {values : List Value} (hlength : params.length = arguments.length)
    (hdistinct : ∀ value ∈ arguments, value.Distinct)
    (h : bindParams start params arguments = .ok values) :
    List.Forall₂ (fun param value => HasType param.type value) params values ∧
      List.Forall₂ Widens arguments values := by
  induction params generalizing arguments start values with
  | nil =>
    cases arguments with
    | nil =>
      cases h
      exact ⟨.nil, .nil⟩
    | cons => cases hlength
  | cons param params ih =>
    cases arguments with
    | nil => cases hlength
    | cons value arguments =>
      rw [bindParams] at h
      cases hvalue : bindValue value param.type with
      | error reason => rw [hvalue] at h; cases h
      | ok bound =>
        rw [hvalue, map_eq_ok_iff] at h
        obtain ⟨rest, hrest, rfl⟩ := h
        rw [List.forall_mem_cons] at hdistinct
        have hfirst := typed_of_bindValue value param.type bound hdistinct.1 hvalue
        obtain ⟨htyped, hwidens⟩ := ih (by simpa using hlength) hdistinct.2 hrest
        exact ⟨.cons hfirst.1 htyped, .cons hfirst.2 hwidens⟩

/-! ## Access -/

namespace BoundArguments

/-- The accessor of the type succeeds at the position. -/
def Accessible (arguments : BoundArguments) (index : Nat) : ParamType → Prop
  | .string => ∃ text, arguments.string index = .ok text
  | .integer => ∃ n, arguments.integer index = .ok n
  | .float => ∃ x, arguments.float index = .ok x
  | .bool => ∃ b, arguments.bool index = .ok b
  | .record _ _ => ∃ fields, arguments.record index = .ok fields
  | .array _ => ∃ items, arguments.array index = .ok items

theorem select_eq_ok {α : Type} {arguments : BoundArguments} {index : Nat} {value : Value} {a : α}
    {accept : Value → Option α} (expected : String) (hvalue : arguments.values[index]? = some value)
    (haccept : accept value = some a) : arguments.select index expected accept = .ok a := by
  rw [select, hvalue]
  dsimp only
  rw [haccept]

theorem accessible_of_hasType {arguments : BoundArguments} {index : Nat} {type : ParamType}
    {value : Value} (hvalue : arguments.values[index]? = some value) (h : HasType type value) :
    arguments.Accessible index type := by
  cases h <;> exact ⟨_, select_eq_ok _ hvalue rfl⟩

end BoundArguments

/-! ## Calls -/

/-- The arguments are bound as the signature declares them: every value has its type at every
    depth and widens its argument, and every accessor succeeds. -/
structure BoundAs (signature : Signature) (arguments : List Value) (bound : BoundArguments) :
    Prop where
  typed : List.Forall₂ (fun param value => HasType param.type value) signature.params bound.values
  widens : List.Forall₂ Widens arguments bound.values
  accessible : ∀ index param, signature.params[index]? = some param →
    bound.Accessible index param.type

theorem boundAs_of_bindArguments {call : Call} {signatures : List Signature}
    {bound : BoundArguments} (hdistinct : ∀ value ∈ call.arguments, value.Distinct)
    (h : bindArguments call signatures = .ok bound) :
    ∃ signature, signatures[bound.signature]? = some signature ∧
      BoundAs signature call.arguments bound := by
  rw [bindArguments] at h
  rcases bindFrom_spec call.arguments 0 none signatures with
    ⟨index, signature, values, hfrom, hsignature, hparams, hfits, -⟩ | ⟨hfrom, -⟩
  · obtain ⟨signature', hsignature', harity, -⟩ := hfits
    rw [hfrom] at h
    cases h
    rw [hsignature] at hsignature'
    cases hsignature'
    obtain ⟨htyped, hwidens⟩ := typed_of_bindParams harity hdistinct hparams
    refine ⟨signature, by rwa [Nat.zero_add], htyped, hwidens, fun index param hparam => ?_⟩
    obtain ⟨hindex, rfl⟩ := List.getElem?_eq_some_iff.1 hparam
    have hlt : index < values.length := htyped.length_eq ▸ hindex
    have htype := List.forall₂_iff_get.1 htyped
    exact BoundArguments.accessible_of_hasType (List.getElem?_eq_getElem hlt)
      (htype.2 index hindex hlt)
  · rw [hfrom] at h
    cases h

end CourseSite.Directive
