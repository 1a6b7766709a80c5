/-
  Which values a type accepts.

  * `KeysFit`: an object has no unknown key and all required fields.
  * `Accepts`: the table of accepted pairs, at every depth.
  * `accepts_iff`: a value is bound to a type just if the type accepts it.
-/
import CourseSite.Proofs.Directive.Reading
import CourseSite.Directive.Binding

namespace CourseSite.Directive

open Fields (contains_iff)
open Attempt (map_eq_ok_iff map_eq_error_iff)

/-! ## The table -/

/-- Every key is declared and every required field is present. -/
structure KeysFit (schema : List Field) (fields : Fields Value) : Prop where
  known : ∀ key ∈ fields.keys, (fieldNamed? schema key).isSome = true
  present : ∀ field ∈ schema, field.required = true → field.name ∈ fields.keys

/-- The type accepts the value: a value of its own kind, an integer for a double, an array of
    accepted elements, an object whose keys fit and whose fields are accepted; nothing else. -/
inductive Accepts : ParamType → Value → Prop
  | string {text : String} : Accepts .string (.string text)
  | integer {n : Int64} : Accepts .integer (.integer n)
  | float {x : Double} : Accepts .float (.float x)
  | bool {b : Bool} : Accepts .bool (.bool b)
  | widened {n : Int64} : Accepts .float (.integer n)
  | array {element : ParamType} {items : List Value} :
      (∀ item ∈ items, Accepts element item) → Accepts (.array element) (.array items)
  | record {name : String} {schema : List Field} {fields : List (String × Value)} :
      KeysFit schema fields →
      (∀ pair ∈ fields, ∀ field, fieldNamed? schema pair.1 = some field →
        Accepts field.type pair.2) →
      Accepts (.record name schema) (.object fields)

theorem keyFault?_eq_none_iff {record : String} {schema : List Field} {fields : Fields Value} :
    keyFault? record schema fields = none ↔ KeysFit schema fields := by
  unfold keyFault?
  constructor
  · intro h
    split at h
    · cases h
    rename_i hknown
    rw [List.find?_eq_none] at hknown
    rw [Option.map_eq_none_iff, List.find?_eq_none] at h
    refine ⟨fun key hkey => ?_, fun field hfield hrequired => ?_⟩
    · have := hknown key hkey
      rwa [Option.isNone_iff_eq_none, ← ne_eq, Option.ne_none_iff_isSome] at this
    · have := h field hfield
      rw [hrequired, Bool.true_and, Bool.not_eq_true, Bool.not_eq_false'] at this
      exact contains_iff.1 this
  · intro h
    have hknown : (fields.keys.find? fun key => (fieldNamed? schema key).isNone) = none := by
      rw [List.find?_eq_none]
      intro key hkey
      rw [Option.isNone_iff_eq_none, ← ne_eq, Option.ne_none_iff_isSome]
      exact h.known key hkey
    rw [hknown]
    dsimp only
    rw [Option.map_eq_none_iff, List.find?_eq_none]
    intro field hfield
    cases hrequired : field.required with
    | false => simp
    | true =>
      have := contains_iff.2 (h.present field hfield hrequired)
      simp [this]

/-! ## Binding -/

mutual

/-- **A value is bound just if the type accepts it.** -/
theorem accepts_iff : ∀ (value : Value) (type : ParamType),
    (∃ bound, bindValue value type = .ok bound) ↔ Accepts type value
  | .string text, type => by
    cases type with
    | string => exact ⟨fun _ => .string, fun _ => ⟨_, rfl⟩⟩
    | _ => exact ⟨nofun, nofun⟩
  | .integer n, type => by
    cases type with
    | integer => exact ⟨fun _ => .integer, fun _ => ⟨_, rfl⟩⟩
    | float => exact ⟨fun _ => .widened, fun _ => ⟨_, rfl⟩⟩
    | _ => exact ⟨nofun, nofun⟩
  | .float x, type => by
    cases type with
    | float => exact ⟨fun _ => .float, fun _ => ⟨_, rfl⟩⟩
    | _ => exact ⟨nofun, nofun⟩
  | .bool b, type => by
    cases type with
    | bool => exact ⟨fun _ => .bool, fun _ => ⟨_, rfl⟩⟩
    | _ => exact ⟨nofun, nofun⟩
  | .array items, type => by
    cases type with
    | array element =>
      have hitems := acceptsAll_iff element items 0
      constructor
      · rintro ⟨bound, h⟩
        rw [bindValue, map_eq_ok_iff] at h
        obtain ⟨values, hvalues, -⟩ := h
        exact .array (hitems.1 ⟨values, hvalues⟩)
      · rintro ⟨⟩
        rename_i h
        obtain ⟨values, hvalues⟩ := hitems.2 h
        exact ⟨.array values, by rw [bindValue, hvalues]; rfl⟩
    | _ => exact ⟨nofun, nofun⟩
  | .object fields, type => by
    cases type with
    | record name schema =>
      have hfields := acceptsFields_iff name schema fields
      constructor
      · rintro ⟨bound, h⟩
        rw [bindValue] at h
        cases hfault : keyFault? name schema fields with
        | some fault => rw [hfault] at h; cases h
        | none =>
          rw [hfault, map_eq_ok_iff] at h
          obtain ⟨values, hvalues, -⟩ := h
          refine .record (keyFault?_eq_none_iff.1 hfault) fun pair hpair field hfield => ?_
          obtain ⟨field', hfield', haccepts⟩ := hfields.1 ⟨values, hvalues⟩ pair hpair
          rw [hfield] at hfield'
          cases hfield'
          exact haccepts
      · rintro ⟨⟩
        rename_i hkeys h
        have hnamed : ∀ pair ∈ fields, ∃ field, fieldNamed? schema pair.1 = some field ∧
            Accepts field.type pair.2 := by
          intro pair hpair
          have hknown := hkeys.known pair.1 (List.mem_map_of_mem hpair)
          obtain ⟨field, hfield⟩ := Option.isSome_iff_exists.1 hknown
          exact ⟨field, hfield, h pair hpair field hfield⟩
        obtain ⟨values, hvalues⟩ := hfields.2 hnamed
        refine ⟨.object (Fields.collect values), ?_⟩
        rw [bindValue, keyFault?_eq_none_iff.2 hkeys]
        dsimp only
        rw [hvalues]
        rfl
    | _ => exact ⟨nofun, nofun⟩

theorem acceptsAll_iff (element : ParamType) : ∀ (items : List Value) (index : Nat),
    (∃ bound, bindItems element index items = .ok bound) ↔ ∀ item ∈ items, Accepts element item
  | [], index => by simp [bindItems]
  | item :: items, index => by
    rw [List.forall_mem_cons, ← accepts_iff item element,
      ← acceptsAll_iff element items (index + 1), bindItems]
    cases bindValue item element <;> simp [map_eq_ok_iff]

theorem acceptsFields_iff (record : String) (schema : List Field) :
    ∀ fields : List (String × Value), (∃ bound, bindFields record schema fields = .ok bound) ↔
      ∀ pair ∈ fields, ∃ field, fieldNamed? schema pair.1 = some field ∧ Accepts field.type pair.2
  | [] => by simp [bindFields]
  | (key, value) :: fields => by
    rw [List.forall_mem_cons, ← acceptsFields_iff record schema fields, bindFields]
    cases fieldNamed? schema key with
    | none => simp
    | some field =>
      simp only [Option.some.injEq, exists_eq_left', ← accepts_iff value field.type]
      cases bindValue value field.type <;> simp [map_eq_ok_iff]

end

end CourseSite.Directive
