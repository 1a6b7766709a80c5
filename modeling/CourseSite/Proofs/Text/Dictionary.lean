/-
  What a dictionary holds under a key.

  * `get?_insert`: after one key was set.
  * `get?_foldl_insert`: after many were.
-/
import CourseSite.Text.Dictionary

namespace CourseSite.Dictionary

variable {α β : Type} {entries : Dictionary α} {key other : String} {value : α}

theorem get?_insert : get? (insert key value entries) other =
    if key = other then some value else get? entries other := by
  induction entries with
  | nil => by_cases h : key = other <;> simp [insert, get?, h]
  | cons entry entries ih =>
    obtain ⟨first, old⟩ := entry
    have hcons (value : α) (entries : Dictionary α) (first : String) :
        get? ((first, value) :: entries) other =
          if first = other then some value else get? entries other := by
      by_cases h : first = other <;> simp [get?, h]
    rw [insert]
    split
    · rename_i heq; subst heq
      rw [hcons, hcons]; split <;> rfl
    split
    · rw [hcons]
    · rename_i hne _
      rw [hcons, hcons, ih]
      split
      · rename_i heq; rw [if_neg fun h => hne (h.trans heq.symm)]
      · rfl

/-- The last one of several values under one key counts. -/
theorem get?_foldl_insert (keyOf : β → String) (valueOf : β → α) (l : List β) (key : String) :
    get? (l.foldl (fun entries b => insert (keyOf b) (valueOf b) entries) entries) key =
      match l.reverse.find? (keyOf · == key) with
      | some b => some (valueOf b)
      | none => get? entries key := by
  induction l generalizing entries with
  | nil => rfl
  | cons b l ih =>
    rw [List.foldl_cons, ih, List.reverse_cons, List.find?_append]
    cases l.reverse.find? (keyOf · == key) with
    | some => rfl
    | none =>
      rw [get?_insert]
      by_cases h : keyOf b = key <;> simp [h]

end CourseSite.Dictionary
