/-
  Logs, and what was entered last.

  * `Last`: the last entry of a log that has a property.
  * `concat_eq_append_cons_iff`: where an entry stands in a log with one more entry.
  * `last_concat_iff`: what one more entry changes.
  * `exists_last_iff`, `Last.unique`: there is one just if some entry has the property, and then
    only one.
-/
import Mathlib.Data.List.Induction

namespace CourseSite.Log

variable {α : Type} {p : α → Prop} {log : List α} {a b : α}

/-- The last entry of the log that has the property. -/
def Last (p : α → Prop) (log : List α) (a : α) : Prop :=
  ∃ earlier later, log = earlier ++ a :: later ∧ p a ∧ ∀ b ∈ later, ¬ p b

theorem not_last_nil : ¬ Last p [] a := by
  rintro ⟨earlier, later, heq, -⟩
  simp at heq

theorem Last.mem (h : Last p log a) : a ∈ log := by
  obtain ⟨earlier, later, rfl, -⟩ := h
  simp

theorem Last.holds (h : Last p log a) : p a := by
  obtain ⟨-, -, -, ha, -⟩ := h
  exact ha

/-- An entry of a log with one more entry is that entry, or stands before it. -/
theorem concat_eq_append_cons_iff {earlier later : List α} : log ++ [b] = earlier ++ a :: later ↔
    (later = [] ∧ a = b ∧ earlier = log) ∨
      ∃ between, later = between ++ [b] ∧ log = earlier ++ a :: between := by
  constructor
  · intro heq
    rcases List.eq_nil_or_concat later with rfl | ⟨between, last, rfl⟩
    · obtain ⟨rfl, hlast⟩ := List.append_inj' heq rfl
      cases hlast
      exact .inl ⟨rfl, rfl, rfl⟩
    · rw [List.concat_eq_append, ← List.cons_append, ← List.append_assoc] at heq
      obtain ⟨rfl, hlast⟩ := List.append_inj' heq rfl
      cases hlast
      exact .inr ⟨between, List.concat_eq_append, rfl⟩
  · rintro (⟨rfl, rfl, rfl⟩ | ⟨between, rfl, rfl⟩) <;> simp

/-- An entry with the property takes the place of all those before it. -/
theorem last_concat_iff : Last p (log ++ [b]) a ↔ (p b ∧ a = b) ∨ (¬ p b ∧ Last p log a) := by
  constructor
  · rintro ⟨earlier, later, heq, ha, hlater⟩
    rcases concat_eq_append_cons_iff.1 heq with ⟨-, rfl, -⟩ | ⟨between, rfl, rfl⟩
    · exact .inl ⟨ha, rfl⟩
    · obtain ⟨hbetween, hb⟩ := List.forall_mem_append.1 hlater
      exact .inr ⟨hb b List.mem_cons_self, earlier, between, rfl, ha, hbetween⟩
  · rintro (⟨hb, rfl⟩ | ⟨hb, earlier, later, rfl, ha, hlater⟩)
    · exact ⟨log, [], rfl, hb, List.forall_mem_nil _⟩
    · exact ⟨earlier, later ++ [b], concat_eq_append_cons_iff.2 (.inr ⟨later, rfl, rfl⟩), ha,
        List.forall_mem_append.2 ⟨hlater, List.forall_mem_singleton.2 hb⟩⟩

/-- There is a last entry with the property just if some entry has it. -/
theorem exists_last_iff : (∃ a, Last p log a) ↔ ∃ a ∈ log, p a := by
  constructor
  · rintro ⟨a, h⟩
    exact ⟨a, h.mem, h.holds⟩
  · induction log using List.reverseRecOn with
    | nil => simp
    | append_singleton log b ih =>
      rintro ⟨a, ha, hp⟩
      by_cases hb : p b
      · exact ⟨b, last_concat_iff.2 (.inl ⟨hb, rfl⟩)⟩
      · have hne : a ≠ b := by rintro rfl; exact hb hp
        have ha : a ∈ log := by simpa [hne] using ha
        obtain ⟨c, hc⟩ := ih ⟨a, ha, hp⟩
        exact ⟨c, last_concat_iff.2 (.inr ⟨hb, hc⟩)⟩

theorem Last.unique (h : Last p log a) (h' : Last p log b) : a = b := by
  induction log using List.reverseRecOn with
  | nil => exact absurd h not_last_nil
  | append_singleton log c ih =>
    rcases last_concat_iff.1 h with ⟨hc, rfl⟩ | ⟨hc, h⟩ <;>
      rcases last_concat_iff.1 h' with ⟨hc', rfl⟩ | ⟨hc', h'⟩
    · rfl
    · exact absurd hc hc'
    · exact absurd hc' hc
    · exact ih h h'

end CourseSite.Log
