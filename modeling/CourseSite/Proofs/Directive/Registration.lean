/-
  Histories of registrations, on any number of copies of a registry.

  * `Operation`, `Operation.run`: what is done to one copy, and the copies behind it; `runAll`:
    those behind a history.
  * `logAll`: the registrations that are left of the history of a copy; a reset clears them, and
    a copy takes those of the other one over.
  * `Latest`: the last registration in a log under a key.
  * `Reflects`: the entries of a registry are the latest registrations of a log; every operation
    keeps it so (`Reflects.step`), and so does every history (`reflects_runAll`).
  * `Reflects.resolve?_eq_some_iff`, `Reflects.size_eq`, `Reflects.pairwise_names`: what a
    registry tells about its log.
-/
import CourseSite.Directive.Builtin
import CourseSite.Directive.Registry
import CourseSite.Proofs.Log
import Mathlib.Data.List.Dedup
import Mathlib.Data.String.Basic
import Mathlib.Logic.Function.Basic

namespace CourseSite.Directive.Registry

variable {registry : Registry} {log : List Extension} {key name : String}
  {extension last : Extension} {entries : List (String × Extension)}

/-! ## Histories -/

/-- What can be done to one of several copies. -/
inductive Operation where
  | register (copy : ℕ) (extension : Extension)
  | builtins (copy : ℕ)
  | reset (copy : ℕ)
  /-- One copy becomes a clone of another one. -/
  | clone (source copy : ℕ)

/-- The copy that is changed. -/
def Operation.copy : Operation → ℕ
  | .register copy _ | .builtins copy | .reset copy | .clone _ copy => copy

/-- The copies behind an operation. -/
def Operation.run (copies : ℕ → Registry) : Operation → ℕ → Registry
  | .register copy extension =>
    Function.update copies copy ((copies copy).register extension)
  | .builtins copy => Function.update copies copy ((copies copy).registerAll Directive.builtins)
  | .reset copy => Function.update copies copy .empty
  | .clone source copy => Function.update copies copy (copies source)

/-- The registrations that are left of every copy behind an operation. -/
def Operation.record (logs : ℕ → List Extension) : Operation → ℕ → List Extension
  | .register copy extension => Function.update logs copy (logs copy ++ [extension])
  | .builtins copy => Function.update logs copy (logs copy ++ Directive.builtins)
  | .reset copy => Function.update logs copy []
  | .clone source copy => Function.update logs copy (logs source)

/-- The copies behind a history. -/
def runAll (copies : ℕ → Registry) (operations : List Operation) : ℕ → Registry :=
  operations.foldl Operation.run copies

/-- The registrations that are left of every copy behind a history. -/
def logAll (logs : ℕ → List Extension) (operations : List Operation) : ℕ → List Extension :=
  operations.foldl Operation.record logs

/-! ## Logs -/

/-- The last registration in the log under a lower-cased name. -/
def Latest (log : List Extension) (key : String) (extension : Extension) : Prop :=
  ∃ earlier later, log = earlier ++ extension :: later ∧ Text.lower extension.name = key ∧
    ∀ other ∈ later, Text.lower other.name ≠ key

theorem latest_iff :
    Latest log key extension ↔ Log.Last (fun e => Text.lower e.name = key) log extension := .rfl

theorem not_latest_nil : ¬ Latest [] key extension :=
  mt latest_iff.1 Log.not_last_nil

theorem Latest.lower_name (h : Latest log key extension) : Text.lower extension.name = key :=
  (latest_iff.1 h).holds

/-- A registration takes the place of all those before it under its key. -/
theorem latest_concat_iff : Latest (log ++ [last]) key extension ↔
    (key = Text.lower last.name ∧ extension = last) ∨
      (key ≠ Text.lower last.name ∧ Latest log key extension) := by
  rw [latest_iff, latest_iff, Log.last_concat_iff, eq_comm, ne_eq]

/-- Every name in the log has a latest registration. -/
theorem exists_latest_iff :
    (∃ extension, Latest log key extension) ↔ key ∈ log.map fun e => Text.lower e.name := by
  simp only [latest_iff, Log.exists_last_iff, List.mem_map]

/-! ## Entries -/

theorem map_fst_putEntry : (putEntry key extension entries).map Prod.fst =
    if key ∈ entries.map Prod.fst then entries.map Prod.fst else entries.map Prod.fst ++ [key] := by
  induction entries with
  | nil => rfl
  | cons first entries ih =>
    obtain ⟨other, old⟩ := first
    rw [putEntry]
    by_cases hother : other = key
    · simp [hother]
    · rw [if_neg hother, List.map_cons, ih, List.map_cons]
      by_cases hkey : key ∈ entries.map Prod.fst
      · rw [if_pos hkey, if_pos (List.mem_cons_of_mem _ hkey)]
      · rw [if_neg hkey, if_neg (by simp_all [eq_comm])]
        rfl

theorem nodup_putEntry (h : (entries.map Prod.fst).Nodup) :
    ((putEntry key extension entries).map Prod.fst).Nodup := by
  rw [map_fst_putEntry]
  split
  · exact h
  · rename_i hkey
    rw [← List.concat_eq_append]
    exact h.concat hkey

theorem mem_putEntry_iff (h : (entries.map Prod.fst).Nodup) {key' : String}
    {extension' : Extension} : (key', extension') ∈ putEntry key extension entries ↔
      (key' = key ∧ extension' = extension) ∨ (key' ≠ key ∧ (key', extension') ∈ entries) := by
  induction entries with
  | nil => simp [putEntry]
  | cons first entries ih =>
    obtain ⟨other, old⟩ := first
    rw [List.map_cons, List.nodup_cons] at h
    rw [putEntry]
    by_cases hother : other = key
    · subst hother
      rw [if_pos rfl, List.mem_cons, List.mem_cons, Prod.mk.injEq, Prod.mk.injEq]
      constructor
      · rintro (hfirst | hmem)
        · exact .inl hfirst
        · refine .inr ⟨?_, .inr hmem⟩
          rintro rfl
          have hkey : key' ∈ entries.map Prod.fst := List.mem_map_of_mem (f := Prod.fst) hmem
          exact h.1 hkey
      · rintro (hfirst | ⟨hne, ⟨rfl, -⟩ | hmem⟩)
        · exact .inl hfirst
        · exact absurd rfl hne
        · exact .inr hmem
    · rw [if_neg hother, List.mem_cons, List.mem_cons, ih h.2, Prod.mk.injEq]
      constructor
      · rintro (⟨rfl, rfl⟩ | hput | ⟨hne, hmem⟩)
        · exact .inr ⟨hother, .inl ⟨rfl, rfl⟩⟩
        · exact .inl hput
        · exact .inr ⟨hne, .inr hmem⟩
      · rintro (hput | ⟨hne, hfirst | hmem⟩)
        · exact .inr (.inl hput)
        · exact .inl hfirst
        · exact .inr (.inr ⟨hne, hmem⟩)

/-! ## Registries and logs -/

/-- The entries of the registry are the latest registrations of the log. -/
structure Reflects (registry : Registry) (log : List Extension) : Prop where
  nodup : (registry.entries.map Prod.fst).Nodup
  mem_iff : ∀ key extension, (key, extension) ∈ registry.entries ↔ Latest log key extension

namespace Reflects

theorem empty : Reflects .empty [] where
  nodup := .nil
  mem_iff _ _ := by simp [Registry.empty, not_latest_nil]

theorem register (h : Reflects registry log) (extension : Extension) :
    Reflects (registry.register extension) (log ++ [extension]) where
  nodup := nodup_putEntry h.nodup
  mem_iff key other := by
    rw [latest_concat_iff, ← h.mem_iff]
    exact mem_putEntry_iff h.nodup

theorem registerAll (h : Reflects registry log) (extensions : List Extension) :
    Reflects (registry.registerAll extensions) (log ++ extensions) := by
  induction extensions generalizing registry log with
  | nil => rwa [List.append_nil]
  | cons extension extensions ih =>
    rw [List.append_cons]
    exact ih (h.register extension)

/-- One operation keeps the copies and their logs together. -/
theorem step {copies : ℕ → Registry} {logs : ℕ → List Extension}
    (h : ∀ copy, Reflects (copies copy) (logs copy)) (operation : Operation) (copy : ℕ) :
    Reflects (operation.run copies copy) (operation.record logs copy) := by
  have hupdate (target : ℕ) {registry : Registry} {log : List Extension}
      (hnew : Reflects registry log) :
      Reflects (Function.update copies target registry copy)
        (Function.update logs target log copy) := by
    by_cases hcopy : copy = target
    · subst hcopy
      rwa [Function.update_self, Function.update_self]
    · rw [Function.update_of_ne hcopy, Function.update_of_ne hcopy]
      exact h copy
  cases operation with
  | register target extension => exact hupdate target ((h target).register extension)
  | builtins target => exact hupdate target ((h target).registerAll _)
  | reset target => exact hupdate target empty
  | clone source target => exact hupdate target (h source)

end Reflects

/-- **Every history** keeps the copies and their logs together. -/
theorem reflects_runAll {copies : ℕ → Registry} {logs : ℕ → List Extension}
    (h : ∀ copy, Reflects (copies copy) (logs copy)) (operations : List Operation) (copy : ℕ) :
    Reflects (runAll copies operations copy) (logAll logs operations copy) := by
  induction operations generalizing copies logs with
  | nil => exact h copy
  | cons operation operations ih => exact ih (Reflects.step h operation)

/-- What is done to other copies leaves a copy as it is. -/
theorem runAll_of_ne {copy : ℕ} (copies : ℕ → Registry) {operations : List Operation}
    (h : ∀ operation ∈ operations, operation.copy ≠ copy) :
    runAll copies operations copy = copies copy := by
  induction operations generalizing copies with
  | nil => rfl
  | cons operation operations ih =>
    rw [List.forall_mem_cons] at h
    have hstep : operation.run copies copy = copies copy := by
      cases operation <;> exact Function.update_of_ne (Ne.symm h.1) _ _
    rw [← hstep]
    exact ih _ h.2

namespace Reflects

/-- A name resolves to its latest registration. -/
theorem resolve?_eq_some_iff (h : Reflects registry log) :
    registry.resolve? name = some extension ↔ Latest log (Text.lower name) extension := by
  rw [← h.mem_iff, Registry.resolve?, Option.map_eq_some_iff]
  constructor
  · rintro ⟨⟨key, extension⟩, hfind, rfl⟩
    have hkey := List.find?_some hfind
    rw [beq_iff_eq] at hkey
    subst hkey
    exact List.mem_of_find?_eq_some hfind
  · intro hmem
    cases hfind : registry.entries.find? (·.1 == Text.lower name) with
    | none => exact absurd (List.find?_eq_none.1 hfind _ hmem) (by simp)
    | some entry =>
      have hkey := List.find?_some hfind
      rw [beq_iff_eq] at hkey
      have hentry := List.inj_on_of_nodup_map h.nodup (List.mem_of_find?_eq_some hfind) hmem hkey
      exact ⟨entry, rfl, by rw [hentry]⟩

theorem resolve?_eq_none_iff (h : Reflects registry log) :
    registry.resolve? name = none ↔ ∀ e ∈ log, Text.lower e.name ≠ Text.lower name := by
  rw [Option.eq_none_iff_forall_ne_some]
  simp only [ne_eq, h.resolve?_eq_some_iff, ← not_exists, exists_latest_iff]
  simp

/-- The keys are the lower-cased names in the log. -/
theorem perm_keys (h : Reflects registry log) :
    (registry.entries.map Prod.fst).Perm (log.map fun e => Text.lower e.name).dedup := by
  rw [List.perm_ext_iff_of_nodup h.nodup (List.nodup_dedup _)]
  intro key
  rw [List.mem_dedup, ← exists_latest_iff]
  simp [h.mem_iff]

theorem size_eq (h : Reflects registry log) :
    registry.size = (log.map fun e => Text.lower e.name).dedup.length := by
  rw [← h.perm_keys.length_eq, List.length_map, Registry.size]

theorem mem_names_iff (h : Reflects registry log) :
    name ∈ registry.names ↔ ∃ e, Latest log (Text.lower name) e ∧ e.name = name := by
  rw [Registry.names, List.mem_mergeSort, List.mem_map]
  constructor
  · rintro ⟨⟨key, e⟩, hmem, rfl⟩
    have hlatest := (h.mem_iff key e).1 hmem
    rw [← hlatest.lower_name] at hlatest
    exact ⟨e, hlatest, rfl⟩
  · rintro ⟨e, hlatest, hname⟩
    exact ⟨_, (h.mem_iff _ e).2 hlatest, hname⟩

/-- The names are in ascending order, and none stands there twice. -/
theorem pairwise_names (h : Reflects registry log) : registry.names.Pairwise (· < ·) := by
  have hnodup : (registry.entries.map (·.2.name)).Nodup := by
    have hkeys : registry.entries.map Prod.fst =
        (registry.entries.map (·.2.name)).map Text.lower := by
      rw [List.map_map]
      refine List.map_congr_left fun ⟨key, e⟩ hmem => ?_
      exact ((h.mem_iff key e).1 hmem).lower_name.symm
    exact List.Nodup.of_map _ (hkeys ▸ h.nodup)
  have hle : registry.names.Pairwise (· ≤ ·) := by
    have hsort := @List.pairwise_mergeSort String (fun a b => decide (a ≤ b))
      (fun a b c hab hbc => by simpa using le_trans (by simpa using hab) (by simpa using hbc))
      (fun a b => by simpa using le_total a b) (registry.entries.map (·.2.name))
    rw [Registry.names]
    simpa using hsort
  have hne : registry.names.Nodup := ((List.mergeSort_perm _ _).nodup_iff).2 hnodup
  exact (hle.and hne).imp fun h => lt_of_le_of_ne h.1 h.2

end Reflects

end CourseSite.Directive.Registry
