/-
  Histories of the fields of an object.

  * `Operation`, `Operation.run`: a pair is inserted, or pairs are collected into new fields;
    `runAll`: the fields behind a history.
  * `logAll`: the pairs of a history since its fields were new.
  * `FirstAt`: the first pair of a log under its key, and where it stands.
  * `Reflects`: fields are the first pairs of a log, in the order of the log; every operation keeps
    it so (`Reflects.step`), and so does every history (`reflects_runAll`).
  * `bindFields_eq_ok_iff`: what the fields of an object are bound to, one by one.
  * `first_insertions_kept`: what fields tell about their log, and that nothing is lost when an
    object is bound field by field.
-/
import CourseSite.Directive.Binding
import CourseSite.Proofs.Directive.Equations
import CourseSite.Proofs.Directive.Fields
import CourseSite.Proofs.Log
import Mathlib.Data.List.Dedup
import Mathlib.Data.List.Forall2

namespace CourseSite

namespace Fields

variable {α : Type} {fields log : Fields α} {pair last other : String × α} {position : ℕ}
  {key : String} {value : α}

/-! ## Histories -/

/-- What can be done to the fields of an object. -/
inductive Operation (α : Type) where
  | insert (key : String) (value : α)
  /-- New fields take the place of the old ones. -/
  | collect (pairs : List (String × α))

/-- The fields behind an operation. -/
def Operation.run (fields : Fields α) : Operation α → Fields α
  | .insert key value => (fields.insert key value).2
  | .collect pairs => Fields.collect pairs

/-- The pairs since the fields were new, behind an operation. -/
def Operation.record (log : List (String × α)) : Operation α → List (String × α)
  | .insert key value => log ++ [(key, value)]
  | .collect pairs => pairs

/-- The fields behind a history, which starts without any. -/
def runAll (operations : List (Operation α)) : Fields α := operations.foldl Operation.run []

/-- The pairs of a history since its fields were new. -/
def logAll (operations : List (Operation α)) : List (String × α) :=
  operations.foldl Operation.record []

/-! ## Logs -/

/-- The pair stands at the position of the log, and none before it has its key. -/
def FirstAt (log : List (String × α)) (position : ℕ) (pair : String × α) : Prop :=
  ∃ earlier later, log = earlier ++ pair :: later ∧ earlier.length = position ∧
    pair.1 ∉ keys earlier

theorem FirstAt.lt_length (h : FirstAt log position pair) : position < log.length := by
  obtain ⟨earlier, later, rfl, rfl, -⟩ := h
  simp

theorem FirstAt.mem_keys (h : FirstAt log position pair) : pair.1 ∈ keys log := by
  obtain ⟨earlier, later, rfl, -, -⟩ := h
  simp [keys]

/-- One more pair is the first one under a key that is new, and changes no other one. -/
theorem firstAt_concat_iff : FirstAt (log ++ [last]) position pair ↔
    FirstAt log position pair ∨ (pair = last ∧ position = log.length ∧ last.1 ∉ keys log) := by
  constructor
  · rintro ⟨earlier, later, heq, hlength, hfresh⟩
    rcases Log.concat_eq_append_cons_iff.1 heq with ⟨-, rfl, rfl⟩ | ⟨between, -, rfl⟩
    · exact .inr ⟨rfl, hlength.symm, hfresh⟩
    · exact .inl ⟨earlier, between, rfl, hlength, hfresh⟩
  · rintro (⟨earlier, later, rfl, hlength, hfresh⟩ | ⟨rfl, rfl, hfresh⟩)
    · exact ⟨earlier, later ++ [last], by simp, hlength, hfresh⟩
    · exact ⟨log, [], rfl, rfl, hfresh⟩

/-- Every key of the log has a first pair. -/
theorem exists_firstAt_iff :
    (∃ position pair, FirstAt log position pair ∧ pair.1 = key) ↔ key ∈ keys log := by
  constructor
  · rintro ⟨position, pair, h, rfl⟩
    exact h.mem_keys
  · induction log using List.reverseRecOn with
    | nil => intro h; cases h
    | append_singleton log last ih =>
      intro h
      by_cases hkey : key ∈ keys log
      · obtain ⟨position, pair, hfirst, rfl⟩ := ih hkey
        exact ⟨position, pair, firstAt_concat_iff.2 (.inl hfirst), rfl⟩
      · obtain rfl : last.1 = key := by
          rw [keys, List.map_append, List.mem_append, List.map_singleton,
            List.mem_singleton] at h
          exact (h.resolve_left hkey).symm
        exact ⟨log.length, last, firstAt_concat_iff.2 (.inr ⟨rfl, rfl, hkey⟩), rfl⟩

/-- There is one first pair under a key. -/
theorem FirstAt.unique {position' : ℕ} (h : FirstAt log position pair)
    (h' : FirstAt log position' other) (hkey : pair.1 = other.1) :
    position = position' ∧ pair = other := by
  induction log using List.reverseRecOn with
  | nil => exact absurd h.lt_length (Nat.not_lt_zero _)
  | append_singleton log last ih =>
    rcases firstAt_concat_iff.1 h with hold | ⟨rfl, rfl, hfresh⟩ <;>
      rcases firstAt_concat_iff.1 h' with hold' | ⟨rfl, rfl, hfresh'⟩
    · exact ih hold hold'
    · exact absurd (hkey ▸ hold.mem_keys) hfresh'
    · exact absurd (hkey ▸ hold'.mem_keys) hfresh
    · exact ⟨rfl, rfl⟩

/-! ## Fields and their logs -/

/-- The fields are the first pairs of the log, in the order of the log. -/
structure Reflects (fields : Fields α) (log : List (String × α)) : Prop where
  mem_iff : ∀ pair, pair ∈ fields ↔ ∃ position, FirstAt log position pair
  ordered : fields.Pairwise fun a b => ∀ i j, FirstAt log i a → FirstAt log j b → i < j

namespace Reflects

theorem empty : Reflects ([] : Fields α) [] where
  mem_iff pair := by
    refine ⟨nofun, ?_⟩
    rintro ⟨position, h⟩
    exact absurd h.lt_length (Nat.not_lt_zero _)
  ordered := .nil

theorem mem_keys_iff (h : Reflects fields log) : key ∈ fields.keys ↔ key ∈ keys log := by
  rw [← @exists_firstAt_iff α log key, keys, List.mem_map]
  constructor
  · rintro ⟨pair, hpair, rfl⟩
    obtain ⟨position, hfirst⟩ := (h.mem_iff pair).1 hpair
    exact ⟨position, pair, hfirst, rfl⟩
  · rintro ⟨position, pair, hfirst, rfl⟩
    exact ⟨pair, (h.mem_iff pair).2 ⟨position, hfirst⟩, rfl⟩

/-- No key stands twice, as its first pair does not come before itself. -/
theorem nodup (h : Reflects fields log) : fields.keys.Nodup := by
  rw [keys, List.Nodup, List.pairwise_map]
  refine h.ordered.imp_of_mem fun {a b} ha hb hlt hkey => ?_
  obtain ⟨i, hi⟩ := (h.mem_iff a).1 ha
  obtain ⟨j, hj⟩ := (h.mem_iff b).1 hb
  exact absurd (hi.unique hj hkey).1 (hlt i j hi hj).ne

theorem insert (h : Reflects fields log) (key : String) (value : α) :
    Reflects (fields.insert key value).2 (log ++ [(key, value)]) := by
  by_cases hkey : key ∈ fields.keys
  · -- no pair becomes a first one
    have hfirst (position : ℕ) (pair : String × α) :
        FirstAt (log ++ [(key, value)]) position pair ↔ FirstAt log position pair := by
      rw [firstAt_concat_iff, or_iff_left]
      rintro ⟨-, -, hfresh⟩
      exact hfresh (h.mem_keys_iff.1 hkey)
    rw [insert_of_mem hkey]
    exact ⟨by simpa only [hfirst] using h.mem_iff, by simpa only [hfirst] using h.ordered⟩
  · have hnew : key ∉ keys log := mt h.mem_keys_iff.2 hkey
    rw [insert_of_not_mem hkey]
    refine ⟨fun pair => ?_, ?_⟩
    · simp only [List.mem_append, List.mem_singleton, h.mem_iff, firstAt_concat_iff, exists_or]
      refine or_congr_right ⟨fun hpair => ⟨_, hpair, rfl, hnew⟩, ?_⟩
      rintro ⟨-, hpair, -⟩
      exact hpair
    · refine List.pairwise_append.2 ⟨?_, List.pairwise_singleton _ _, ?_⟩
      · refine h.ordered.imp_of_mem fun {a b} ha hb hlt i j hi hj => ?_
        have hold {pair : String × α} {position : ℕ} (hpair : pair ∈ fields)
            (hfirst : FirstAt (log ++ [(key, value)]) position pair) :
            FirstAt log position pair := by
          refine (firstAt_concat_iff.1 hfirst).resolve_right ?_
          rintro ⟨rfl, -, -⟩
          exact hkey (List.mem_map_of_mem (f := Prod.fst) hpair)
        exact hlt i j (hold ha hi) (hold hb hj)
      · intro a ha b hb i j hi hj
        rw [List.mem_singleton] at hb
        subst hb
        obtain ⟨i', hi'⟩ := (h.mem_iff a).1 ha
        obtain ⟨rfl, -⟩ := (firstAt_concat_iff.2 (.inl hi')).unique hi rfl
        obtain ⟨rfl, -⟩ := (firstAt_concat_iff.2 (.inr ⟨rfl, rfl, hnew⟩)).unique hj rfl
        exact hi'.lt_length

theorem collect (pairs : List (String × α)) : Reflects (Fields.collect pairs) pairs := by
  have hfold {fields log : Fields α} (h : Reflects fields log) (pairs : List (String × α)) :
      Reflects (pairs.foldl (fun fields pair => (fields.insert pair.1 pair.2).2) fields)
        (log ++ pairs) := by
    induction pairs generalizing fields log with
    | nil => rwa [List.append_nil]
    | cons pair pairs ih =>
      rw [List.append_cons]
      exact ih (h.insert pair.1 pair.2)
  exact hfold empty pairs

/-- One operation keeps the fields and their log together. -/
theorem step (h : Reflects fields log) (operation : Operation α) :
    Reflects (operation.run fields) (operation.record log) := by
  cases operation with
  | insert key value => exact h.insert key value
  | collect pairs => exact collect pairs

end Reflects

/-- **Every history** keeps the fields and their log together. -/
theorem reflects_runAll (operations : List (Operation α)) :
    Reflects (runAll operations) (logAll operations) := by
  have hfold {fields log : Fields α} (h : Reflects fields log)
      (operations : List (Operation α)) : Reflects (operations.foldl Operation.run fields)
        (operations.foldl Operation.record log) := by
    induction operations generalizing fields log with
    | nil => exact h
    | cons operation operations ih => exact ih (h.step operation)
  exact hfold .empty operations

namespace Reflects

/-- A key holds the value of its first pair. -/
theorem get?_eq_some_iff (h : Reflects fields log) :
    fields.get? key = some value ↔ ∃ position, FirstAt log position (key, value) := by
  rw [Fields.get?_eq_some_iff h.nodup, h.mem_iff]

/-- There are as many fields as keys in the log. -/
theorem length_eq (h : Reflects fields log) : fields.length = (keys log).dedup.length := by
  have hperm : fields.keys.Perm (keys log).dedup := by
    rw [List.perm_ext_iff_of_nodup h.nodup (List.nodup_dedup _)]
    intro key
    rw [List.mem_dedup, h.mem_keys_iff]
  rw [← hperm.length_eq, keys, List.length_map]

end Reflects

/-- The fields are the first pairs of the log, and everything that can be asked of them agrees. -/
structure KeepsFirst (fields : Fields α) (log : List (String × α)) : Prop where
  nodup : fields.keys.Nodup
  ordered : fields.Pairwise fun a b => ∀ i j, FirstAt log i a → FirstAt log j b → i < j
  get?_iff : ∀ key value, fields.get? key = some value ↔ ∃ position, FirstAt log position (key, value)
  mem_iff : ∀ key value, (key, value) ∈ fields ↔ fields.get? key = some value
  contains_iff : ∀ key, fields.contains key = true ↔ key ∈ fields.keys
  length_keys : fields.keys.length = fields.length
  length_eq : fields.length = (keys log).dedup.length
  refused_iff : ∀ key value, (fields.insert key value).1 = false ↔ key ∈ fields.keys
  refused : ∀ key value, (fields.insert key value).1 = false →
    (fields.insert key value).2 = fields
  inserted : ∀ key value, (fields.insert key value).1 = true →
    (fields.insert key value).2 = fields ++ [(key, value)]

theorem Reflects.keepsFirst (h : Reflects fields log) : KeepsFirst fields log where
  nodup := h.nodup
  ordered := h.ordered
  get?_iff _ _ := h.get?_eq_some_iff
  mem_iff _ _ := (Fields.get?_eq_some_iff h.nodup).symm
  contains_iff _ := Fields.contains_iff
  length_keys := List.length_map _
  length_eq := h.length_eq
  refused_iff key value := by
    by_cases hkey : key ∈ fields.keys
    · simp [insert_of_mem hkey, hkey]
    · simp [insert_of_not_mem hkey, hkey]
  refused key value hrefused := by
    by_cases hkey : key ∈ fields.keys
    · rw [insert_of_mem hkey]
    · rw [insert_of_not_mem hkey] at hrefused
      cases hrefused
  inserted key value hinserted := by
    by_cases hkey : key ∈ fields.keys
    · rw [insert_of_mem hkey] at hinserted
      cases hinserted
    · rw [insert_of_not_mem hkey]

end Fields

namespace Directive

open Fields (KeepsFirst collect_eq_self reflects_runAll)
open Attempt (map_eq_ok_iff)

/-! ## Binding field by field -/

/-- The field is bound under its own key to what the record declares for it. -/
def FieldBound (schema : List Field) (field bound : String × Value) : Prop :=
  bound.1 = field.1 ∧ ∃ declared, fieldNamed? schema field.1 = some declared ∧
    bindValue field.2 declared.type = .ok bound.2

theorem bindFields_eq_ok_iff {record : String} {schema : List Field}
    {fields bound : List (String × Value)} :
    bindFields record schema fields = .ok bound ↔
      List.Forall₂ (FieldBound schema) fields bound := by
  induction fields generalizing bound with
  | nil => simp [bindFields, eq_comm]
  | cons field fields ih =>
    obtain ⟨key, value⟩ := field
    rw [bindFields, List.forall₂_cons_left_iff]
    cases hdeclared : fieldNamed? schema key with
    | none => simp [FieldBound, hdeclared]
    | some declared =>
      dsimp only
      cases hvalue : bindValue value declared.type with
      | error reason => simp [FieldBound, hdeclared, hvalue]
      | ok first =>
        rw [map_eq_ok_iff]
        constructor
        · rintro ⟨rest, hrest, rfl⟩
          exact ⟨(key, first), rest, ⟨rfl, declared, hdeclared, hvalue⟩, ih.1 hrest, rfl⟩
        · rintro ⟨⟨key', first'⟩, rest, ⟨hkey, declared', hdeclared', hvalue'⟩, hrest, rfl⟩
          cases hdeclared.symm.trans hdeclared'
          cases hvalue.symm.trans hvalue'
          cases hkey
          exact ⟨rest, ih.2 hrest, rfl⟩

theorem keys_of_bound {schema : List Field} {fields bound : Fields Value}
    (h : List.Forall₂ (FieldBound schema) fields bound) : bound.keys = fields.keys := by
  induction h with
  | nil => rfl
  | cons hfield _ ih => exact congrArg₂ List.cons hfield.1 ih

/-- **An object is bound field by field** without a loss: an object whose keys fit the record
    becomes the object of the same keys in the same order, each with its value as it is bound. -/
theorem bindValue_object_eq_ok_iff {record : String} {schema : List Field} {fields : Fields Value}
    {bound : Value} (hnodup : fields.keys.Nodup) :
    bindValue (.object fields) (.record record schema) = .ok bound ↔
      keyFault? record schema fields = none ∧
        ∃ values, bound = .object values ∧ List.Forall₂ (FieldBound schema) fields values := by
  rw [bindValue]
  cases hfault : keyFault? record schema fields with
  | some fault => simp
  | none =>
    dsimp only
    rw [map_eq_ok_iff]
    simp only [bindFields_eq_ok_iff, true_and]
    refine exists_congr fun values => ?_
    rw [and_comm]
    refine and_congr_left fun hvalues => ?_
    rw [collect_eq_self (keys_of_bound hvalues ▸ hnodup), eq_comm]

/-- **Fields keep first insertions.**  Behind every history of insertions and collections, the
    fields of an object are the pairs since it was new that are the first ones under their keys, in
    the order in which they came; all that can be asked of them agrees; and an insertion is refused
    just if its key is present, and then changes nothing.  So pairs under the same keys are
    collected as they are, and an object that is bound to a record keeps every field, bound, in its
    place. -/
theorem first_insertions_kept (operations : List (Fields.Operation Value)) :
    KeepsFirst (Fields.runAll operations) (Fields.logAll operations) ∧
      (∀ pairs : Fields Value, pairs.keys = (Fields.runAll operations).keys →
        Fields.collect pairs = pairs) ∧
      ∀ record schema bound,
        bindValue (.object (Fields.runAll operations)) (.record record schema) = .ok bound ↔
          keyFault? record schema (Fields.runAll operations) = none ∧ ∃ values,
            bound = .object values ∧
              List.Forall₂ (FieldBound schema) (Fields.runAll operations) values := by
  have hreflects := reflects_runAll operations
  refine ⟨hreflects.keepsFirst, fun pairs hkeys => ?_, fun record schema bound => ?_⟩
  · exact collect_eq_self (hkeys ▸ hreflects.nodup)
  · exact bindValue_object_eq_ok_iff hreflects.nodup

/-- A second pair under a key is dropped from a collection and refused later on; the record takes
    what is left in its order. -/
theorem first_insertions_kept_repeated :
    Fields.runAll [.collect [("b", Value.bool true), ("a", .integer 2), ("b", .integer 3)],
        .insert "a" (.integer 4), .insert "c" (.string "x")] =
        [("b", .bool true), ("a", .integer 2), ("c", .string "x")] ∧
      KeepsFirst [("b", Value.bool true), ("a", .integer 2), ("c", .string "x")]
        [("b", .bool true), ("a", .integer 2), ("b", .integer 3), ("a", .integer 4),
          ("c", .string "x")] ∧
      Fields.collect [("b", Value.integer 1), ("a", .integer 1), ("c", .integer 1)] =
        [("b", .integer 1), ("a", .integer 1), ("c", .integer 1)] ∧
      bindValue (.object [("b", .bool true), ("a", .integer 2), ("c", .string "x")])
          (.record "Answer" [⟨"a", .float, true⟩, ⟨"b", .bool, true⟩, ⟨"c", .string, false⟩]) =
        .ok (.object [("b", .bool true), ("a", .float (Double.ofInt 2)), ("c", .string "x")]) := by
  obtain ⟨hkeeps, hcollect, hbind⟩ := first_insertions_kept
    [.collect [("b", .bool true), ("a", .integer 2), ("b", .integer 3)],
      .insert "a" (.integer 4), .insert "c" (.string "x")]
  refine ⟨rfl, hkeeps, hcollect _ rfl, (hbind _ _ _).2 ⟨rfl, _, rfl, ?_⟩⟩
  exact .cons ⟨rfl, _, rfl, rfl⟩ (.cons ⟨rfl, _, rfl, rfl⟩ (.cons ⟨rfl, _, rfl, rfl⟩ .nil))

end Directive

end CourseSite
