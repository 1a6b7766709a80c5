/-
  What a cache gives back.

  * `get?_set`: what a key holds after something was stored.
  * `getText?_setText`: a text that was stored is given back under its tag.
-/
import CourseSite.Cache.Store

namespace CourseSite.CacheStore

variable {store : CacheStore} {cache other : CacheHandle} {bucket bucket' key key' tag tag' : String}

theorem find?_putItem (slot : CacheSlot) (item : CacheItem) (other : CacheSlot)
    (items : List (CacheSlot × CacheItem)) :
    ((putItem slot item items).find? (·.1 = other)).map (·.2) =
      if other = slot then some item else (items.find? (·.1 = other)).map (·.2) := by
  induction items with
  | nil =>
    by_cases h : slot = other
    · simp [putItem, h]
    · simp [putItem, h, Ne.symm h]
  | cons first items ih =>
    obtain ⟨place, old⟩ := first
    rw [putItem]
    split
    · rename_i hplace
      subst hplace
      by_cases h : place = other
      · simp [h]
      · simp [h, Ne.symm h]
    · rename_i hplace
      by_cases h : place = other
      · subst h; simp [hplace]
      · rw [List.find?_cons_of_neg (by simpa using h), List.find?_cons_of_neg (by simpa using h)]
        exact ih

/-- The bytes of a memory cache are those of the item at their place, if the tag admits them. -/
theorem get?_memory (number : Nat) :
    store.get? (.memory number) bucket key tag =
      ((store.items.find? (·.1 = ⟨number, bucket, key⟩)).map (·.2)).bind fun item =>
        if tag = "" ∨ item.tag = tag then some item.data else none := by
  rw [get?]
  cases store.items.find? (·.1 = ⟨number, bucket, key⟩) <;> rfl

/-- **What a cache gives back** after something was stored: that, at its place in a cache that
    keeps something and if the tag admits it, and what it gave back before at any other place. -/
theorem get?_set (data : ByteArray) :
    (store.set cache bucket key tag data).get? other bucket' key' tag' =
      if cache ≠ .null ∧ other = cache ∧ bucket' = bucket ∧ key' = key then
        if tag' = "" ∨ tag = tag' then some data else none
      else store.get? other bucket' key' tag' := by
  cases cache with
  | null => rw [if_neg fun h => h.1 rfl]; rfl
  | memory number =>
    cases other with
    | null => rw [if_neg fun h => by cases h.2.1]; rfl
    | memory number' =>
      have hplace : (CacheHandle.memory number ≠ .null ∧ CacheHandle.memory number' = .memory number ∧
          bucket' = bucket ∧ key' = key) ↔
          (⟨number', bucket', key'⟩ : CacheSlot) = ⟨number, bucket, key⟩ := by
        simp
      rw [get?_memory, get?_memory, set, find?_putItem]
      simp only [hplace]
      split <;> rfl

theorem fromUTF8?_toUTF8 (text : String) : String.fromUTF8? text.toUTF8 = some text := by
  rw [String.fromUTF8?, String.toUTF8_eq_toByteArray, dif_pos text.isValidUTF8]
  rfl

/-- A text that was stored is given back under its tag, and otherwise what was there before. -/
theorem getText?_setText (text : String) :
    (store.setText cache bucket key tag text).getText? other bucket' key' tag' =
      if cache ≠ .null ∧ other = cache ∧ bucket' = bucket ∧ key' = key then
        if tag' = "" ∨ tag = tag' then some text else none
      else store.getText? other bucket' key' tag' := by
  rw [getText?, setText, get?_set]
  split
  · split
    · exact fromUTF8?_toUTF8 text
    · rfl
  · rfl

end CourseSite.CacheStore
