/-
  Fields by their keys.

  * `contains_iff`, `get?_eq_some_iff`: which keys are present, and what they hold if none stands
    twice.
  * `insert_of_mem`, `insert_of_not_mem`: the two answers to an insertion.
  * `collect_eq_self`: pairs without a key that stands twice are collected as they are.
-/
import CourseSite.Directive.Fields
import Mathlib.Data.List.Nodup

namespace CourseSite.Fields

variable {α : Type} {fields more pairs : Fields α} {key : String} {value : α}

theorem contains_iff : fields.contains key = true ↔ key ∈ fields.keys := by
  simp [contains, get?, keys, List.find?_isSome]

theorem nodup_keys_concat (value : α) (h : fields.keys.Nodup)
    (hnew : ¬ fields.contains key = true) :
    (keys (fields ++ [(key, value)])).Nodup := by
  rw [contains_iff] at hnew
  rw [keys, List.map_append]
  exact List.nodup_append.2 ⟨h, by simp, by rintro _ hm _ hm' rfl; simp_all [keys]⟩

theorem not_mem_keys (h : (keys (fields ++ (key, value) :: more)).Nodup) : key ∉ fields.keys := by
  rw [keys, List.map_append] at h
  intro hm
  exact (List.nodup_append.1 h).2.2 key hm key (by simp) rfl

/-! ## Values -/

theorem get?_cons (other : String) (b : α) (fields : Fields α) (key : String) :
    get? ((other, b) :: fields) key = if other = key then some b else fields.get? key := by
  rw [get?, List.find?_cons]
  by_cases hkey : other = key
  · rw [if_pos hkey, beq_iff_eq.2 hkey, Option.map_some]
  · rw [if_neg hkey, beq_eq_false_iff_ne.2 hkey, get?]

theorem get?_eq_some_iff (h : fields.keys.Nodup) : fields.get? key = some value ↔
    (key, value) ∈ fields := by
  induction fields with
  | nil => simp [get?]
  | cons pair fields ih =>
    obtain ⟨other, b⟩ := pair
    rw [keys, List.map_cons, List.nodup_cons] at h
    rw [get?_cons, List.mem_cons, Prod.mk.injEq, ← ih h.2]
    by_cases hkey : other = key
    · subst hkey
      have hnone : get? fields other ≠ some value := fun hmem =>
        h.1 (List.mem_map.2 ⟨_, (ih h.2).1 hmem, rfl⟩)
      simp [hnone, @eq_comm _ value b]
    · simp [hkey, Ne.symm hkey]

/-! ## Insertion -/

/-- A key that is present is left alone. -/
theorem insert_of_mem (h : key ∈ fields.keys) (value : α) :
    fields.insert key value = (false, fields) := by
  rw [insert, if_pos (contains_iff.2 h)]

/-- A key that is new goes to the end. -/
theorem insert_of_not_mem (h : key ∉ fields.keys) (value : α) :
    fields.insert key value = (true, fields ++ [(key, value)]) := by
  rw [insert, if_neg (mt contains_iff.1 h)]

theorem foldl_insert (fields : Fields α) (h : (keys (fields ++ pairs)).Nodup) :
    pairs.foldl (fun fields (key, value) => (fields.insert key value).2) fields =
      fields ++ pairs := by
  induction pairs generalizing fields with
  | nil => rw [List.foldl_nil, List.append_nil]
  | cons pair pairs ih =>
    obtain ⟨key, value⟩ := pair
    have hinsert : (fields.insert key value).2 = fields ++ [(key, value)] := by
      rw [insert_of_not_mem (not_mem_keys h)]
    rw [List.append_cons] at h ⊢
    rw [List.foldl_cons]
    dsimp only
    rw [hinsert, ih _ h]

theorem collect_eq_self (h : pairs.keys.Nodup) : collect pairs = pairs :=
  foldl_insert [] h

end CourseSite.Fields
