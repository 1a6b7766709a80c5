/-
  What the children of a node find at their barrier.

  * `standing_eq_waiting_iff`, `standing_eq_failed_iff`, `standing_eq_ready_iff`: the
    standing of the siblings before a position, from their arrivals.
  * `mem_putFragment`, `mem_putFragment_self`, `ordered_putFragment`: the fragments are a
    table from positions to texts, in ascending order.
-/
import CourseSite.Site.Barrier

namespace CourseSite.Barrier

theorem getElem?_ofCount (count k : Nat) :
    (ofCount count).arrivals[k]? = if k < count then some .pending else none := by
  simp [ofCount, List.getElem?_replicate]

/-! ## Standing -/

theorem contains_take_iff {arrivals : List Arrival} {position : Nat} {arrival : Arrival} :
    (arrivals.take position).contains arrival = true ↔
      ∃ k < position, arrivals[k]? = some arrival := by
  rw [List.contains_iff_mem, List.mem_iff_getElem?]
  constructor
  · rintro ⟨k, hk⟩
    rw [List.getElem?_take] at hk
    split at hk
    · exact ⟨k, ‹_›, hk⟩
    · cases hk
  · rintro ⟨k, hlt, hk⟩
    exact ⟨k, by rw [List.getElem?_take, if_pos hlt]; exact hk⟩

theorem standing_eq_waiting_iff {barrier : Barrier} {position : Nat} :
    barrier.standing position = .waiting ↔ ∃ k < position, barrier.arrivals[k]? = some .pending := by
  rw [← contains_take_iff, standing]
  cases (barrier.arrivals.take position).contains .pending <;>
    cases (barrier.arrivals.take position).contains .failed <;> simp

theorem standing_eq_failed_iff {barrier : Barrier} {position : Nat} :
    barrier.standing position = .failed ↔
      (∀ k < position, barrier.arrivals[k]? ≠ some .pending) ∧
        ∃ k < position, barrier.arrivals[k]? = some .failed := by
  have hp : (∀ k < position, barrier.arrivals[k]? ≠ some .pending) ↔
      ¬ (barrier.arrivals.take position).contains .pending = true := by
    rw [contains_take_iff]; simp
  rw [hp, ← contains_take_iff, standing]
  cases (barrier.arrivals.take position).contains .pending <;>
    cases (barrier.arrivals.take position).contains .failed <;> simp

theorem standing_eq_ready_iff {barrier : Barrier} {position : Nat} :
    barrier.standing position = .ready ↔
      ∀ k < position, barrier.arrivals[k]? ≠ some .pending ∧ barrier.arrivals[k]? ≠ some .failed := by
  constructor
  · intro h k hk
    refine ⟨fun hp => ?_, fun hf => ?_⟩
    · rw [standing_eq_waiting_iff.2 ⟨k, hk, hp⟩] at h; cases h
    · by_cases hp : ∃ k < position, barrier.arrivals[k]? = some .pending
      · rw [standing_eq_waiting_iff.2 hp] at h; cases h
      · rw [standing_eq_failed_iff.2 ⟨fun k hk he => hp ⟨k, hk, he⟩, k, hk, hf⟩] at h; cases h
  · intro h
    cases hs : barrier.standing position with
    | ready => rfl
    | waiting =>
      obtain ⟨k, hk, hp⟩ := standing_eq_waiting_iff.1 hs
      exact absurd hp (h k hk).1
    | failed =>
      obtain ⟨-, k, hk, hf⟩ := standing_eq_failed_iff.1 hs
      exact absurd hf (h k hk).2

theorem getElem?_arrive (barrier : Barrier) (position k : Nat) (success : Bool) :
    (barrier.arrive position success).arrivals[k]? =
      if k = position then (barrier.arrivals[k]?).map fun _ => if success then .done else .failed
      else barrier.arrivals[k]? := by
  rw [arrive, List.getElem?_set]
  by_cases hk : k = position
  · subst hk
    by_cases hlt : k < barrier.arrivals.length <;> simp [hlt]
  · rw [if_neg (Ne.symm hk), if_neg hk]

/-! ## Fragments -/

/-- Fragments in ascending order of position, no position twice. -/
def Ordered (fragments : List (Nat × String)) : Prop := fragments.Pairwise (·.1 < ·.1)

theorem mem_putFragment {position k : Nat} {text t : String} :
    ∀ {fragments}, (k, t) ∈ putFragment position text fragments →
      (k = position ∧ t = text) ∨ (k, t) ∈ fragments
  | [], h => by simpa [putFragment] using h
  | (other, old) :: fragments, h => by
    rw [putFragment] at h
    split at h
    · rcases List.mem_cons.1 h with h | h
      · cases h; exact Or.inl ⟨rfl, rfl⟩
      · exact Or.inr (List.mem_cons_of_mem _ h)
    split at h
    · rcases List.mem_cons.1 h with h | h
      · cases h; exact Or.inl ⟨rfl, rfl⟩
      · exact Or.inr h
    · rcases List.mem_cons.1 h with h | h
      · exact Or.inr (h ▸ List.mem_cons_self)
      · exact (mem_putFragment h).imp id (List.mem_cons_of_mem _)

theorem mem_putFragment_self (position : Nat) (text : String) :
    ∀ fragments, (position, text) ∈ putFragment position text fragments
  | [] => by simp [putFragment]
  | (other, old) :: fragments => by
    rw [putFragment]
    split
    · exact List.mem_cons_self
    split
    · exact List.mem_cons_self
    · exact List.mem_cons_of_mem _ (mem_putFragment_self position text fragments)

theorem mem_putFragment_of_ne {position k : Nat} {text t : String} (hk : k ≠ position) :
    ∀ {fragments}, (k, t) ∈ fragments → (k, t) ∈ putFragment position text fragments
  | (other, old) :: fragments, h => by
    rw [putFragment]
    split
    · rename_i ho
      rcases List.mem_cons.1 h with h | h
      · cases h; exact absurd ho.symm hk
      · exact List.mem_cons_of_mem _ h
    split
    · exact List.mem_cons_of_mem _ h
    · rcases List.mem_cons.1 h with h | h
      · exact h ▸ List.mem_cons_self
      · exact List.mem_cons_of_mem _ (mem_putFragment_of_ne hk h)

theorem ordered_putFragment {position : Nat} {text : String} :
    ∀ {fragments}, Ordered fragments → Ordered (putFragment position text fragments)
  | [], _ => by simp [putFragment, Ordered]
  | (other, old) :: fragments, h => by
    obtain ⟨hlt, hrest⟩ := List.pairwise_cons.1 h
    rw [putFragment]
    split
    · rename_i ho; subst ho
      exact .cons hlt hrest
    split
    · rename_i ho
      refine .cons (fun b hb => ?_) h
      rcases List.mem_cons.1 hb with rfl | hb
      · exact ho
      · exact Nat.lt_trans ho (hlt b hb)
    · rename_i hne hnl
      refine .cons (fun ⟨k, t⟩ hb => ?_) (ordered_putFragment hrest)
      rcases mem_putFragment hb with ⟨rfl, -⟩ | hb
      · show other < k
        omega
      · exact hlt _ hb

end CourseSite.Barrier
