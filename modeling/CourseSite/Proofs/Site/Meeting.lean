/-
  Histories of a barrier: what the children find, whatever they did before.

  * `Operation`, `Meeting`, `runAll`: what is done at a barrier and with the guards that were
    opened at it, and what is there behind a history.
  * `IsOpen`, `Arrives`: a guard from its opening to its end, and which operations are arrivals.
  * `HasArrived`, `LastArrival`, `LatestText`: what a history says about a position.
  * `Reflects`: the barrier shows just that; every operation keeps it so (`Reflects.step`), and
    so does every history (`reflects_runAll`).
  * `standing_of_runAll`: who has to wait, who finds a failure, and what the fragments add up to.
-/
import CourseSite.Proofs.Log
import CourseSite.Proofs.Site.Barrier
import Mathlib.Data.List.Sort

namespace CourseSite.Barrier

open Log (Last concat_eq_append_cons_iff last_concat_iff not_last_nil exists_last_iff)

/-! ## Operations -/

/-- What can be done at a barrier.  Guards are numbered in the order in which they are opened. -/
inductive Operation where
  | arrive (position : ℕ) (success : Bool)
  | guard (position : ℕ)
  | succeed (number : ℕ)
  | drop (number : ℕ)
  | insertFragment (position : ℕ) (text : String)
deriving DecidableEq

/-- A barrier and the guards that were opened at it; of one that has ended only its place is left. -/
structure Meeting where
  barrier : Barrier
  guards : List (Option Guard)

/-- A guard ends as `ending` says.  One that has ended before is not there to end again. -/
def Meeting.finish (meeting : Meeting) (number : ℕ) (ending : Guard → Guard) : Meeting :=
  match meeting.guards[number]? with
  | some (some guard) => ⟨meeting.barrier.release (ending guard), meeting.guards.set number none⟩
  | _ => meeting

/-- The barrier and the guards behind an operation. -/
def Operation.run (meeting : Meeting) : Operation → Meeting
  | .arrive position success => { meeting with barrier := meeting.barrier.arrive position success }
  | .guard position => { meeting with guards := meeting.guards ++ [some (.ofPosition position)] }
  | .succeed number => meeting.finish number Guard.succeed
  | .drop number => meeting.finish number id
  | .insertFragment position text =>
    { meeting with barrier := meeting.barrier.insertFragment position text }

/-- The barrier for a number of children and its guards behind a history. -/
def runAll (count : ℕ) (operations : List Operation) : Meeting :=
  operations.foldl Operation.run ⟨.ofCount count, []⟩

variable {count position k number : ℕ} {success : Bool} {text : String} {operation last : Operation}
  {operations : List Operation}

/-! ## What a history says -/

/-- The operation opens a guard. -/
def Operation.isOpening : Operation → Bool
  | .guard _ => true
  | _ => false

/-- The guard that the operation ends. -/
def Operation.ended? : Operation → Option ℕ
  | .succeed number | .drop number => some number
  | _ => none

/-- The guard was opened for the position and has not ended. -/
def IsOpen (operations : List Operation) (number position : ℕ) : Prop :=
  ∃ earlier later, operations = earlier ++ .guard position :: later ∧
    earlier.countP Operation.isOpening = number ∧ ∀ operation ∈ later, operation.ended? ≠ some number

/-- The operation behind the earlier ones is an arrival of the position.  A guard arrives when it
    ends, not when it is opened. -/
inductive Arrives (earlier : List Operation) : Operation → ℕ → Bool → Prop
  | arrive {position : ℕ} {success : Bool} :
      Arrives earlier (.arrive position success) position success
  | succeed {number position : ℕ} : IsOpen earlier number position →
      Arrives earlier (.succeed number) position true
  | drop {number position : ℕ} : IsOpen earlier number position →
      Arrives earlier (.drop number) position false

/-- The operations of a history, each with those before it. -/
def turns (operations : List Operation) : List (List Operation × Operation) :=
  operations.mapIdx fun i operation => (operations.take i, operation)

/-- The position has arrived, however that was. -/
def HasArrived (operations : List Operation) (position : ℕ) : Prop :=
  ∃ turn ∈ turns operations, ∃ success, Arrives turn.1 turn.2 position success

/-- The last arrival of the position was a success, or it was a failure. -/
def LastArrival (operations : List Operation) (position : ℕ) (success : Bool) : Prop :=
  ∃ turn, Last (fun turn => ∃ success, Arrives turn.1 turn.2 position success) (turns operations)
    turn ∧ Arrives turn.1 turn.2 position success

/-- The text that the operation leaves at the position. -/
def Operation.textAt? (position : ℕ) : Operation → Option String
  | .insertFragment other text => if other = position then some text else none
  | _ => none

/-- The texts that were left at the position, in order. -/
def textsAt (position : ℕ) (operations : List Operation) : List String :=
  operations.filterMap (Operation.textAt? position)

/-- The latest text of the position. -/
def LatestText (operations : List Operation) (position : ℕ) (text : String) : Prop :=
  (textsAt position operations).getLast? = some text

/-! ### One more operation -/

theorem turns_concat : turns (operations ++ [last]) = turns operations ++ [(operations, last)] := by
  rw [turns, List.mapIdx_concat, turns]
  congr 1
  · refine List.mapIdx_eq_mapIdx_iff.2 fun i hi => ?_
    rw [List.take_append_of_le_length (Nat.le_of_lt hi)]
  · simp

theorem hasArrived_concat_iff : HasArrived (operations ++ [last]) position ↔
    HasArrived operations position ∨ ∃ success, Arrives operations last position success := by
  simp only [HasArrived, turns_concat, List.mem_append, List.mem_singleton, or_and_right,
    exists_or, exists_eq_left]

theorem lastArrival_concat_iff : LastArrival (operations ++ [last]) position success ↔
    Arrives operations last position success ∨
      (∀ success', ¬ Arrives operations last position success') ∧
        LastArrival operations position success := by
  simp only [LastArrival, turns_concat, last_concat_iff, or_and_right, exists_or, not_exists]
  constructor
  · rintro (⟨turn, ⟨-, rfl⟩, harrives⟩ | ⟨turn, ⟨hnone, hlast⟩, harrives⟩)
    · exact .inl harrives
    · exact .inr ⟨hnone, turn, hlast, harrives⟩
  · rintro (harrives | ⟨hnone, turn, hlast, harrives⟩)
    · exact .inl ⟨_, ⟨⟨success, harrives⟩, rfl⟩, harrives⟩
    · exact .inr ⟨turn, ⟨hnone, hlast⟩, harrives⟩

theorem exists_lastArrival_iff :
    (∃ success, LastArrival operations position success) ↔ HasArrived operations position := by
  rw [HasArrived, ← exists_last_iff]
  constructor
  · rintro ⟨success, turn, hlast, -⟩
    exact ⟨turn, hlast⟩
  · rintro ⟨turn, hlast⟩
    obtain ⟨success, harrives⟩ := hlast.holds
    exact ⟨success, turn, hlast, harrives⟩

theorem Arrives.unique {success' : Bool} (h : Arrives operations operation position success)
    (h' : Arrives operations operation position success') : success = success' := by
  cases h <;> cases h' <;> rfl

theorem LastArrival.unique {success' : Bool} (h : LastArrival operations position success)
    (h' : LastArrival operations position success') : success = success' := by
  obtain ⟨turn, hlast, harrives⟩ := h
  obtain ⟨turn', hlast', harrives'⟩ := h'
  obtain rfl := hlast.unique hlast'
  exact harrives.unique harrives'

theorem not_isOpen_nil : ¬ IsOpen [] number position := by
  rintro ⟨earlier, later, heq, -⟩
  simp at heq

/-- A guard is open if it was opened just now, or was open and is not ended now. -/
theorem isOpen_concat_iff : IsOpen (operations ++ [last]) number position ↔
    (last = .guard position ∧ operations.countP Operation.isOpening = number) ∨
      (last.ended? ≠ some number ∧ IsOpen operations number position) := by
  constructor
  · rintro ⟨earlier, later, heq, hcount, hlater⟩
    rcases concat_eq_append_cons_iff.1 heq with ⟨-, rfl, rfl⟩ | ⟨between, rfl, rfl⟩
    · exact .inl ⟨rfl, hcount⟩
    · obtain ⟨hbetween, hlast⟩ := List.forall_mem_append.1 hlater
      exact .inr ⟨hlast last List.mem_cons_self, earlier, between, rfl, hcount, hbetween⟩
  · rintro (⟨rfl, hcount⟩ | ⟨hlast, earlier, later, rfl, hcount, hlater⟩)
    · exact ⟨operations, [], rfl, hcount, List.forall_mem_nil _⟩
    · exact ⟨earlier, later ++ [last], concat_eq_append_cons_iff.2 (.inr ⟨later, rfl, rfl⟩), hcount,
        List.forall_mem_append.2 ⟨hlater, List.forall_mem_singleton.2 hlast⟩⟩

/-- The end of a guard closes it, and leaves the others as they are. -/
theorem isOpen_concat_iff_of_ended? (hopening : last.isOpening = false)
    (hended : last.ended? = some number) (other : ℕ) :
    IsOpen (operations ++ [last]) other position ↔
      other ≠ number ∧ IsOpen operations other position := by
  have hopen : last ≠ .guard position := by
    rintro rfl
    cases hopening
  rw [isOpen_concat_iff, hended]
  simp [hopen, eq_comm]

theorem IsOpen.lt_countP (h : IsOpen operations number position) :
    number < operations.countP Operation.isOpening := by
  obtain ⟨earlier, later, rfl, rfl, -⟩ := h
  rw [List.countP_append, List.countP_cons_of_pos rfl]
  omega

theorem latestText_concat_iff : LatestText (operations ++ [last]) position text ↔
    last.textAt? position = some text ∨
      last.textAt? position = none ∧ LatestText operations position text := by
  rw [LatestText, textsAt, List.filterMap_append, LatestText, textsAt]
  cases htext : last.textAt? position <;> simp [htext]

/-! ## What the barrier shows -/

/-- What the barrier shows of a position is what the history says about it. -/
inductive Shows (operations : List Operation) (position : ℕ) : Arrival → Prop
  | pending : ¬ HasArrived operations position → Shows operations position .pending
  | arrived {success : Bool} : LastArrival operations position success →
      Shows operations position (if success then .done else .failed)

/-- The barrier and its guards are those of a history. -/
structure Reflects (count : ℕ) (operations : List Operation) (meeting : Meeting) : Prop where
  arrival : ∀ k < count, ∃ arrival, meeting.barrier.arrivals[k]? = some arrival ∧
    Shows operations k arrival
  length_guards : meeting.guards.length = operations.countP Operation.isOpening
  guard_iff : ∀ number promise, meeting.guards[number]? = some (some promise) ↔
    ∃ position, promise = .ofPosition position ∧ IsOpen operations number position
  ordered : Ordered meeting.barrier.fragments
  fragment_iff : ∀ k text, (k, text) ∈ meeting.barrier.fragments ↔ LatestText operations k text

theorem Ordered.eq_of_mem {fragments : List (ℕ × String)} (h : Ordered fragments) {t t' : String}
    (ht : (k, t) ∈ fragments) (ht' : (k, t') ∈ fragments) : t = t' := by
  obtain ⟨i, hi, heq⟩ := List.mem_iff_getElem.1 ht
  obtain ⟨j, hj, heq'⟩ := List.mem_iff_getElem.1 ht'
  have hlt := List.pairwise_iff_getElem.1 h
  rcases Nat.lt_trichotomy i j with hij | rfl | hij
  · have := hlt i j hi hj hij
    rw [heq, heq'] at this
    exact absurd this (lt_irrefl _)
  · exact congrArg Prod.snd (heq.symm.trans heq')
  · have := hlt j i hj hi hij
    rw [heq, heq'] at this
    exact absurd this (lt_irrefl _)

theorem mem_putFragment_iff {fragments : List (ℕ × String)} (h : Ordered fragments) {t : String} :
    (k, t) ∈ putFragment position text fragments ↔
      (k = position ∧ t = text) ∨ (k ≠ position ∧ (k, t) ∈ fragments) := by
  constructor
  · intro hmem
    by_cases hk : k = position
    · subst hk
      exact .inl ⟨rfl, (ordered_putFragment h).eq_of_mem hmem (mem_putFragment_self _ _ _)⟩
    · rcases mem_putFragment hmem with ⟨rfl, -⟩ | hmem
      · exact absurd rfl hk
      · exact .inr ⟨hk, hmem⟩
  · rintro (⟨rfl, rfl⟩ | ⟨hk, hmem⟩)
    · exact mem_putFragment_self _ _ _
    · exact mem_putFragment_of_ne hk hmem

namespace Reflects

variable {meeting : Meeting}

theorem start (count : ℕ) : Reflects count [] ⟨.ofCount count, []⟩ where
  arrival k hk := by
    refine ⟨.pending, by rw [getElem?_ofCount, if_pos hk], .pending ?_⟩
    rintro ⟨turn, hturn, -⟩
    cases hturn
  length_guards := rfl
  guard_iff number promise := by simp [not_isOpen_nil]
  ordered := .nil
  fragment_iff k text := by simp [ofCount, LatestText, textsAt]

/-- An operation that is no arrival changes nothing of what is shown. -/
theorem arrival_of_not_arrives (h : Reflects count operations meeting)
    (hlast : ∀ k success, ¬ Arrives operations last k success) :
    ∀ k < count, ∃ arrival, meeting.barrier.arrivals[k]? = some arrival ∧
      Shows (operations ++ [last]) k arrival := by
  intro k hk
  obtain ⟨arrival, harrival, hshows⟩ := h.arrival k hk
  refine ⟨arrival, harrival, ?_⟩
  cases hshows with
  | pending hnever =>
    refine .pending fun harrived => ?_
    rcases hasArrived_concat_iff.1 harrived with harrived | ⟨success, harrives⟩
    · exact hnever harrived
    · exact hlast k success harrives
  | arrived hlatest => exact .arrived (lastArrival_concat_iff.2 (.inr ⟨hlast k, hlatest⟩))

/-- An arrival changes what is shown of its position, and of no other one. -/
theorem arrival_of_arrives (h : Reflects count operations meeting)
    (hlast : ∀ k success', Arrives operations last k success' ↔ k = position ∧ success' = success) :
    ∀ k < count, ∃ arrival, (meeting.barrier.arrive position success).arrivals[k]? = some arrival ∧
      Shows (operations ++ [last]) k arrival := by
  intro k hk
  obtain ⟨arrival, harrival, hshows⟩ := h.arrival k hk
  rw [getElem?_arrive, harrival]
  by_cases hposition : k = position
  · have harrives := (hlast k success).2 ⟨hposition, rfl⟩
    exact ⟨_, by rw [if_pos hposition]; rfl, .arrived (lastArrival_concat_iff.2 (.inl harrives))⟩
  · have hnone (success' : Bool) : ¬ Arrives operations last k success' := fun harrives =>
      hposition ((hlast k success').1 harrives).1
    refine ⟨arrival, if_neg hposition, ?_⟩
    cases hshows with
    | pending hnever =>
      refine .pending fun harrived => ?_
      rcases hasArrived_concat_iff.1 harrived with harrived | ⟨success', harrives⟩
      · exact hnever harrived
      · exact hnone success' harrives
    | arrived hlatest => exact .arrived (lastArrival_concat_iff.2 (.inr ⟨hnone, hlatest⟩))

/-- An operation that leaves no text leaves the texts as they are. -/
theorem fragment_iff_of_textAt? (h : Reflects count operations meeting)
    (hlast : ∀ k, last.textAt? k = none) (k : ℕ) (text : String) :
    (k, text) ∈ meeting.barrier.fragments ↔ LatestText (operations ++ [last]) k text := by
  rw [h.fragment_iff, latestText_concat_iff, hlast]
  simp

/-- An operation that neither opens nor ends a guard leaves the guards as they are. -/
theorem guard_iff_of_ended? (h : Reflects count operations meeting)
    (hopening : last.isOpening = false) (hended : last.ended? = none) (number : ℕ)
    (promise : Guard) : meeting.guards[number]? = some (some promise) ↔
      ∃ position, promise = .ofPosition position ∧ IsOpen (operations ++ [last]) number position := by
  have hopen (position : ℕ) : last ≠ .guard position := by
    rintro rfl
    cases hopening
  simp only [h.guard_iff, isOpen_concat_iff, hopen, hended, false_and, false_or, ne_eq,
    reduceCtorEq, not_false_eq_true, true_and]

theorem arrive (h : Reflects count operations meeting) (position : ℕ) (success : Bool) :
    Reflects count (operations ++ [.arrive position success])
      ((Operation.arrive position success).run meeting) where
  arrival := h.arrival_of_arrives fun k success' => by
    constructor
    · rintro ⟨⟩
      exact ⟨rfl, rfl⟩
    · rintro ⟨rfl, rfl⟩
      exact .arrive
  length_guards := by
    rw [List.countP_append]
    exact h.length_guards
  guard_iff := h.guard_iff_of_ended? rfl rfl
  ordered := h.ordered
  fragment_iff := h.fragment_iff_of_textAt? fun _ => rfl

theorem insertFragment (h : Reflects count operations meeting) (position : ℕ) (text : String) :
    Reflects count (operations ++ [.insertFragment position text])
      ((Operation.insertFragment position text).run meeting) where
  arrival := h.arrival_of_not_arrives nofun
  length_guards := by
    rw [List.countP_append]
    exact h.length_guards
  guard_iff := h.guard_iff_of_ended? rfl rfl
  ordered := ordered_putFragment h.ordered
  fragment_iff k text' := by
    have hmem := @mem_putFragment_iff position k text _ h.ordered text'
    rw [latestText_concat_iff, ← h.fragment_iff]
    refine hmem.trans ?_
    by_cases hk : position = k
    · simp [Operation.textAt?, hk, eq_comm]
    · simp [Operation.textAt?, hk, Ne.symm hk]

theorem guard (h : Reflects count operations meeting) (position : ℕ) :
    Reflects count (operations ++ [.guard position]) ((Operation.guard position).run meeting) where
  arrival := h.arrival_of_not_arrives nofun
  length_guards := by
    rw [List.countP_append, ← h.length_guards]
    exact List.length_append
  guard_iff number promise := by
    simp only [isOpen_concat_iff, Operation.guard.injEq, ← h.length_guards]
    show (meeting.guards ++ [some (.ofPosition position)])[number]? = some (some promise) ↔ _
    rcases Nat.lt_trichotomy number meeting.guards.length with hlt | rfl | hgt
    · rw [List.getElem?_append_left hlt, h.guard_iff]
      simp [Operation.ended?, hlt.ne']
    · have hfresh (other : ℕ) : ¬ IsOpen operations meeting.guards.length other := fun hopen =>
        absurd (h.length_guards ▸ hopen.lt_countP) (lt_irrefl _)
      simp [hfresh, eq_comm]
    · have hfresh (other : ℕ) : ¬ IsOpen operations number other := fun hopen =>
        absurd (h.length_guards ▸ hopen.lt_countP) (by omega)
      have hnone : (meeting.guards ++ [some (.ofPosition position)])[number]? = none := by
        rw [List.getElem?_eq_none_iff, List.length_append]
        exact hgt
      rw [hnone]
      simp [hfresh, hgt.ne]
  ordered := h.ordered
  fragment_iff := h.fragment_iff_of_textAt? fun _ => rfl

theorem guard_iff_set (h : Reflects count operations meeting) (hopening : last.isOpening = false)
    (hended : last.ended? = some number) (other : ℕ) (promise : Guard) :
    (meeting.guards.set number none)[other]? = some (some promise) ↔
      ∃ position, promise = .ofPosition position ∧ IsOpen (operations ++ [last]) other position := by
  simp only [isOpen_concat_iff_of_ended? hopening hended]
  rw [List.getElem?_set]
  by_cases hother : number = other
  · subst hother
    simp
  · rw [if_neg hother, h.guard_iff]
    simp [Ne.symm hother]

/-- A guard stands at one position only. -/
theorem eq_of_isOpen (h : Reflects count operations meeting) {k : ℕ}
    (hposition : IsOpen operations number position) (hk : IsOpen operations number k) :
    k = position := by
  have hguard := (h.guard_iff number (.ofPosition position)).2 ⟨position, rfl, hposition⟩
  have hguard' := (h.guard_iff number (.ofPosition k)).2 ⟨k, rfl, hk⟩
  rw [hguard] at hguard'
  cases hguard'
  rfl

/-- The end of a guard is an arrival if the guard is open, and nothing otherwise. -/
theorem finish (h : Reflects count operations meeting) {ending : Guard → Guard}
    (hending : ∀ position, ending (.ofPosition position) = ⟨position, success⟩)
    (hended : last.ended? = some number) (hopening : last.isOpening = false)
    (htext : ∀ k, last.textAt? k = none)
    (harrives : ∀ k success', Arrives operations last k success' ↔
      IsOpen operations number k ∧ success' = success) :
    Reflects count (operations ++ [last]) (meeting.finish number ending) := by
  have hlength : meeting.guards.length = (operations ++ [last]).countP Operation.isOpening := by
    rw [List.countP_append, h.length_guards, List.countP_singleton, if_neg (by simp [hopening])]
    rfl
  rw [Meeting.finish]
  split
  · rename_i promise hguard
    obtain ⟨position, rfl, hposition⟩ := (h.guard_iff number promise).1 hguard
    have hunique (k : ℕ) : IsOpen operations number k ↔ k = position :=
      ⟨h.eq_of_isOpen hposition, fun hk => hk ▸ hposition⟩
    constructor
    · simp only [hending, release]
      exact h.arrival_of_arrives fun k success' => by rw [harrives, hunique]
    · rw [List.length_set]
      exact hlength
    · exact h.guard_iff_set hopening hended
    · exact h.ordered
    · exact h.fragment_iff_of_textAt? htext
  · rename_i hguard
    have hnone (position : ℕ) : ¬ IsOpen operations number position := fun hposition =>
      hguard _ ((h.guard_iff number _).2 ⟨position, rfl, hposition⟩)
    constructor
    · exact h.arrival_of_not_arrives fun k success' harrival =>
        hnone k ((harrives k success').1 harrival).1
    · exact hlength
    · intro other promise
      simp only [isOpen_concat_iff_of_ended? hopening hended, h.guard_iff]
      refine exists_congr fun position => and_congr_right fun _ => ?_
      refine ⟨fun hposition => ⟨?_, hposition⟩, And.right⟩
      rintro rfl
      exact hnone position hposition
    · exact h.ordered
    · exact h.fragment_iff_of_textAt? htext

/-- **One operation** keeps the barrier and the history together. -/
theorem step (h : Reflects count operations meeting) (operation : Operation) :
    Reflects count (operations ++ [operation]) (operation.run meeting) := by
  cases operation with
  | arrive position success => exact h.arrive position success
  | guard position => exact h.guard position
  | insertFragment position text => exact h.insertFragment position text
  | succeed number =>
    have hending (position : ℕ) : (Guard.ofPosition position).succeed = ⟨position, true⟩ := rfl
    refine h.finish hending rfl rfl (fun _ => rfl) fun k success' => ?_
    constructor
    · intro harrives
      cases harrives with | succeed hopen => exact ⟨hopen, rfl⟩
    · rintro ⟨hopen, rfl⟩
      exact .succeed hopen
  | drop number =>
    have hending (position : ℕ) : id (Guard.ofPosition position) = ⟨position, false⟩ := rfl
    refine h.finish hending rfl rfl (fun _ => rfl) fun k success' => ?_
    constructor
    · intro harrives
      cases harrives with | drop hopen => exact ⟨hopen, rfl⟩
    · rintro ⟨hopen, rfl⟩
      exact .drop hopen

end Reflects

/-- **Every history** keeps the barrier and the history together. -/
theorem reflects_runAll (count : ℕ) (operations : List Operation) :
    Reflects count operations (runAll count operations) := by
  induction operations using List.reverseRecOn with
  | nil => exact .start count
  | append_singleton operations operation ih =>
    rw [runAll, List.foldl_append]
    exact ih.step operation

namespace Reflects

variable {meeting : Meeting}

theorem pending_iff (h : Reflects count operations meeting) (hk : k < count) :
    meeting.barrier.arrivals[k]? = some .pending ↔ ¬ HasArrived operations k := by
  obtain ⟨arrival, harrival, hshows⟩ := h.arrival k hk
  rw [harrival, Option.some.injEq]
  cases hshows with
  | pending hnever => exact ⟨fun _ => hnever, fun _ => rfl⟩
  | @arrived success hlatest =>
    have harrived := exists_lastArrival_iff.1 ⟨success, hlatest⟩
    cases success <;> exact ⟨nofun, fun hnever => absurd harrived hnever⟩

theorem failed_iff (h : Reflects count operations meeting) (hk : k < count) :
    meeting.barrier.arrivals[k]? = some .failed ↔ LastArrival operations k false := by
  obtain ⟨arrival, harrival, hshows⟩ := h.arrival k hk
  rw [harrival, Option.some.injEq]
  cases hshows with
  | pending hnever =>
    exact ⟨nofun, fun hlatest => absurd (exists_lastArrival_iff.1 ⟨false, hlatest⟩) hnever⟩
  | @arrived success hlatest =>
    cases success with
    | true => exact ⟨nofun, fun hfailed => absurd (hlatest.unique hfailed) nofun⟩
    | false => exact ⟨fun _ => hlatest, fun _ => rfl⟩

/-- A child has to wait just if some sibling before it has never arrived. -/
theorem standing_eq_waiting_iff (h : Reflects count operations meeting) (hposition : position ≤ count) :
    meeting.barrier.standing position = .waiting ↔ ∃ k < position, ¬ HasArrived operations k := by
  rw [Barrier.standing_eq_waiting_iff]
  exact exists_congr fun k => and_congr_right fun hk => h.pending_iff (hk.trans_le hposition)

/-- A child that need not wait finds a failure just if some sibling's last arrival was one. -/
theorem standing_eq_failed_iff (h : Reflects count operations meeting) (hposition : position ≤ count)
    (hwait : meeting.barrier.standing position ≠ .waiting) :
    meeting.barrier.standing position = .failed ↔
      ∃ k < position, LastArrival operations k false := by
  rw [ne_eq, Barrier.standing_eq_waiting_iff] at hwait
  push Not at hwait
  rw [Barrier.standing_eq_failed_iff, and_iff_right hwait]
  exact exists_congr fun k => and_congr_right fun hk => h.failed_iff (hk.trans_le hposition)

end Reflects

/-- What has arrived stays so. -/
theorem HasArrived.append (h : HasArrived operations position) (more : List Operation) :
    HasArrived (operations ++ more) position := by
  induction more using List.reverseRecOn with
  | nil => rwa [List.append_nil]
  | append_singleton more last ih =>
    rw [← List.append_assoc]
    exact hasArrived_concat_iff.2 (.inl ih)

/-- Fragments under the same positions with the same texts are the same. -/
theorem Ordered.eq_of_mem_iff {fragments fragments' : List (ℕ × String)} (h : Ordered fragments)
    (h' : Ordered fragments') (hmem : ∀ k text, (k, text) ∈ fragments ↔ (k, text) ∈ fragments') :
    fragments = fragments' := by
  have : Std.Irrefl fun a b : ℕ × String => a.1 < b.1 := ⟨fun _ => lt_irrefl _⟩
  have : Std.Antisymm fun a b : ℕ × String => a.1 < b.1 := ⟨fun _ _ hab hba => absurd hba hab.asymm⟩
  exact List.Pairwise.eq_of_mem_iff h h' fun ⟨k, text⟩ => hmem k text

/-- **What the children find at their barrier**, whatever was done there.  A child has to wait just
    if some sibling before it has never arrived, and once it need not wait it never has to; it then
    finds a failure just if the last arrival of one of them was a failure.  The fragments are the
    latest text of each position in ascending order, whatever the order in which different
    positions left them. -/
theorem standing_of_runAll (count : ℕ) (operations : List Operation) :
    (∀ position ≤ count,
      ((runAll count operations).barrier.standing position = .waiting ↔
        ∃ k < position, ¬ HasArrived operations k) ∧
      ((runAll count operations).barrier.standing position ≠ .waiting →
        (∀ more, (runAll count (operations ++ more)).barrier.standing position ≠ .waiting) ∧
        ((runAll count operations).barrier.standing position = .failed ↔
          ∃ k < position, LastArrival operations k false))) ∧
    ∀ separator,
      (∃ fragments, Ordered fragments ∧
        (∀ k text, (k, text) ∈ fragments ↔ LatestText operations k text) ∧
        (runAll count operations).barrier.joinFragments separator =
          (separator.intercalate (fragments.map (·.2)), fragments.length)) ∧
      ∀ operations', (∀ k, textsAt k operations' = textsAt k operations) →
        (runAll count operations').barrier.joinFragments separator =
          (runAll count operations).barrier.joinFragments separator := by
  have hreflects := reflects_runAll count
  refine ⟨fun position hposition => ⟨(hreflects operations).standing_eq_waiting_iff hposition,
    fun hwait => ⟨fun more => ?_, (hreflects operations).standing_eq_failed_iff hposition hwait⟩⟩,
    fun separator => ⟨⟨_, (hreflects operations).ordered, (hreflects operations).fragment_iff, rfl⟩,
      fun operations' htexts => ?_⟩⟩
  · rw [ne_eq, (hreflects operations).standing_eq_waiting_iff hposition] at hwait
    rw [ne_eq, (hreflects (operations ++ more)).standing_eq_waiting_iff hposition]
    push Not at hwait ⊢
    exact fun k hk => (hwait k hk).append more
  · have heq := (hreflects operations').ordered.eq_of_mem_iff (hreflects operations).ordered
      fun k text => by
        rw [(hreflects operations').fragment_iff, (hreflects operations).fragment_iff, LatestText,
          LatestText, htexts]
    rw [joinFragments, joinFragments, heq]

/-- A position that arrived well and whose guard is dropped after that counts as failed; and two
    texts may be left in either order. -/
theorem standing_of_runAll_dropped :
    (∃ k < 1, LastArrival [.guard 0, .arrive 0 true, .drop 0] k false) ∧
      (runAll 2 ([.guard 0, .arrive 0 true, .drop 0] ++ [.guard 0])).barrier.standing 1 ≠ .waiting ∧
      (runAll 2 [.insertFragment 1 "b", .insertFragment 0 "a"]).barrier.joinFragments "," =
        (runAll 2 [.insertFragment 0 "a", .insertFragment 1 "b"]).barrier.joinFragments "," := by
  have hwait : (runAll 2 [.guard 0, .arrive 0 true, .drop 0]).barrier.standing 1 ≠ .waiting := by
    decide
  have htexts (k : ℕ) : textsAt k [.insertFragment 1 "b", .insertFragment 0 "a"] =
      textsAt k [.insertFragment 0 "a", .insertFragment 1 "b"] := by
    rcases k with _ | _ | k <;> simp [textsAt, Operation.textAt?]
  obtain ⟨hnever, hfailed⟩ := ((standing_of_runAll 2 [.guard 0, .arrive 0 true, .drop 0]).1 1
    (by decide)).2 hwait
  exact ⟨hfailed.1 (by decide), hnever [.guard 0],
    ((standing_of_runAll 2 [.insertFragment 0 "a", .insertFragment 1 "b"]).2 ",").2 _ htexts⟩

end CourseSite.Barrier
