/-
  Arrays whose elements have one shape, in one order and in every order.

  * `Below`, `Leads`: what stands in an array, so many arrays deep, and what its first elements lead
    to.
  * `AllAlike`: every array holds elements of one shape.  `AllAlike.oneKind`: then its plain values
    at each depth are of one kind, if the first elements lead to one wherever there are any.
  * `Rearranged`, `Steady`: the same array with its elements, and those of its rows, in another
    order; an array holds elements of one shape in every order.
  * `Suits`, `Regular`: the plain values are of one kind and stand at one depth, and arrays only
    above it.  `steady_iff`: the steady arrays are the regular ones.

  The elements of an array are compared with the first one alone, and an empty array is like every
  other, so that one shape in one order says little about another order.
-/
import CourseSite.Proofs.Directive.Rebinding

namespace CourseSite.Directive

open Grammar (SameShape Alike)

variable {v w x y item first : Value} {items : List Value} {d e : ℕ} {kind : Kind}

/-! ## What stands in an array -/

/-- The value stands in another one, so many arrays deep. -/
inductive Below (x : Value) : ℕ → Value → Prop
  | self : Below x 0 x
  | item {d : ℕ} {item : Value} {items : List Value} : item ∈ items → Below x d item →
      Below x (d + 1) (.array items)

/-- The first elements lead to the value, so many arrays deep. -/
inductive Leads (x : Value) : ℕ → Value → Prop
  | self : Leads x 0 x
  | first {d : ℕ} {first : Value} {others : List Value} : Leads x d first →
      Leads x (d + 1) (.array (first :: others))

/-- The value is no array. -/
def Value.IsPlain (v : Value) : Prop := v.kind ≠ .array

/-- The plain values at each depth are of one kind. -/
def OneKind (v : Value) : Prop :=
  ∀ d x y, Below x d v → Below y d v → x.IsPlain → y.IsPlain → x.kind = y.kind

theorem Below.eq_of_isPlain (h : Below x d v) (hv : v.IsPlain) : d = 0 ∧ x = v := by
  cases h with
  | self => exact ⟨rfl, rfl⟩
  | item => exact absurd rfl hv

theorem Leads.eq_of_isPlain (h : Leads x d v) (hv : v.IsPlain) : d = 0 ∧ x = v := by
  cases h with
  | self => exact ⟨rfl, rfl⟩
  | first => exact absurd rfl hv

theorem Below.lt_sizeOf (h : Below x d v) : d < sizeOf v := by
  induction h with
  | self => cases x <;> simp
  | item hitem _ ih =>
    have := List.sizeOf_lt_of_mem hitem
    rw [Value.array.sizeOf_spec]
    omega

/-- At depth `e` the value stands as it has to if all plain values are of the kind and stand at
    depth `d`, and arrays only above it. -/
structure Suits (kind : Kind) (d e : ℕ) (v : Value) : Prop where
  plain : v.IsPlain → e = d ∧ v.kind = kind
  array : ¬ v.IsPlain → e < d

theorem Suits.above {y : Value} (hy : ¬ y.IsPlain) (hless : e < d) : Suits kind d e y :=
  ⟨fun h => absurd h hy, fun _ => hless⟩

theorem Suits.of_eq {y : Value} (hy : y.IsPlain) (hkind : y.kind = kind) : Suits kind d d y :=
  ⟨fun _ => ⟨rfl, hkind⟩, fun h => absurd hy h⟩

theorem suits_succ_iff {y : Value} : Suits kind (d + 1) (e + 1) y ↔ Suits kind d e y :=
  ⟨fun h => ⟨fun hy => (h.plain hy).imp_left Nat.succ.inj,
      fun hy => Nat.lt_of_succ_lt_succ (h.array hy)⟩,
    fun h => ⟨fun hy => (h.plain hy).imp_left (congrArg (· + 1)),
      fun hy => Nat.succ_lt_succ (h.array hy)⟩⟩

/-- Values of one shape lead to values of one kind at one depth, if they lead to plain values,
    and to arrays only above it. -/
theorem Leads.of_sameShape (h : SameShape v w) (hx : Leads x d v) (hy : Leads y e w)
    (hplain : x.IsPlain) : Suits x.kind d e y := by
  induction h generalizing d e with
  | @scalar v w hkind hv =>
    have hw : w.IsPlain := fun h => hv (hkind.trans h)
    obtain ⟨rfl, rfl⟩ := hx.eq_of_isPlain hv
    obtain ⟨rfl, rfl⟩ := hy.eq_of_isPlain hw
    exact .of_eq hw hkind.symm
  | emptyLeft =>
    cases hx
    exact absurd rfl hplain
  | emptyRight =>
    cases hy
    cases hx with
    | self => exact absurd rfl hplain
    | first => exact .above (not_not_intro rfl) (Nat.succ_pos _)
  | nested _ ih =>
    cases hx with
    | self => exact absurd rfl hplain
    | first hx =>
      cases hy with
      | self => exact .above (not_not_intro rfl) (Nat.succ_pos _)
      | first hy => exact suits_succ_iff.2 (ih hx hy)

/-! ## Arrays that are accepted -/

/-- Every array holds elements of one shape. -/
inductive AllAlike : Value → Prop
  | plain {v : Value} : v.IsPlain → AllAlike v
  | array {items : List Value} : (∀ item ∈ items, AllAlike item) → Alike items →
      AllAlike (.array items)

/-- The first elements lead to a plain value. -/
def IsLed (v : Value) : Prop := ∃ x d, Leads x d v ∧ x.IsPlain

/-- Wherever arrays hold a plain value, their first elements lead to one. -/
def LedThroughout (v : Value) : Prop :=
  ∀ row d, Below row d v → (∃ x e, Below x e row ∧ x.IsPlain) → IsLed row

theorem LedThroughout.of_mem (h : LedThroughout (.array items)) (hitem : item ∈ items) :
    LedThroughout item :=
  fun row _ hrow => h row _ (.item hitem hrow)

theorem LedThroughout.of_isPlain (hv : v.IsPlain) : LedThroughout v := by
  rintro row d hrow -
  obtain ⟨-, rfl⟩ := hrow.eq_of_isPlain hv
  exact ⟨row, 0, .self, hv⟩

theorem LedThroughout.empty : LedThroughout (.array []) := by
  rintro row d hrow ⟨x, e, hx, hplain⟩
  cases hrow with
  | self =>
    cases hx with
    | self => exact absurd rfl hplain
    | item hitem => exact absurd hitem List.not_mem_nil
  | item hitem => exact absurd hitem List.not_mem_nil

theorem LedThroughout.array (hitems : ∀ item ∈ items, LedThroughout item)
    (h : IsLed (.array items)) : LedThroughout (.array items) := by
  intro row d hrow hplain
  cases hrow with
  | self => exact h
  | item hitem hrow => exact hitems _ hitem row _ hrow hplain

/-- **All plain values are like the one that the first elements lead to.** -/
theorem AllAlike.eq_of_leads (h : AllAlike v) (hled : LedThroughout v) (hx : Leads x d v)
    (hplain : x.IsPlain) (hy : Below y e v) (hplain' : y.IsPlain) : e = d ∧ y.kind = x.kind := by
  induction h generalizing x y d e with
  | plain hv =>
    obtain ⟨rfl, rfl⟩ := hx.eq_of_isPlain hv
    obtain ⟨rfl, rfl⟩ := hy.eq_of_isPlain hv
    exact ⟨rfl, rfl⟩
  | @array items _ halike ih =>
    cases hy with
    | self => exact absurd rfl hplain'
    | @item e item _ hitem hy =>
      cases hx with
      | self => exact absurd rfl hplain
      | @first d first others hx =>
        have hshape : SameShape item first := halike first rfl item hitem
        have hrow := hled.of_mem hitem
        obtain ⟨z, f, hz, hz'⟩ := hrow item 0 .self ⟨y, e, hy, hplain'⟩
        obtain ⟨rfl, hkind⟩ := ih item hitem hrow hz hz' hy hplain'
        obtain ⟨rfl, hkind'⟩ := (hz.of_sameShape hshape hx hz').plain hplain
        exact ⟨rfl, hkind.trans hkind'.symm⟩

theorem AllAlike.oneKind (h : AllAlike v) (hled : LedThroughout v) : OneKind v := by
  intro d x y hx hy hplain hplain'
  obtain ⟨z, e, hz, hz'⟩ := hled v 0 .self ⟨x, d, hx, hplain⟩
  rw [(h.eq_of_leads hled hz hz' hx hplain).2, (h.eq_of_leads hled hz hz' hy hplain').2]

/-! ## Other orders -/

/-- The same array with its elements, and those of its rows, in some order. -/
inductive Rearranged : Value → Value → Prop
  | plain {v : Value} : v.IsPlain → Rearranged v v
  | array {items moved items' : List Value} : List.Forall₂ Rearranged items moved →
      moved.Perm items' → Rearranged (.array items) (.array items')

theorem Rearranged.refl (v : Value) : Rearranged v v :=
  match v with
  | .array items =>
    .array (List.forall₂_same.2 fun item hitem =>
      have := List.sizeOf_lt_of_mem hitem
      Rearranged.refl item) (.refl items)
  | .string _ | .integer _ | .float _ | .bool _ | .object _ => .plain nofun

/-- The elements may be put in another order before they are rearranged themselves. -/
theorem Rearranged.of_perm {moved items' : List Value} (hperm : items.Perm moved)
    (hall : List.Forall₂ Rearranged moved items') : Rearranged (.array items) (.array items') := by
  obtain ⟨items'', hall, hperm⟩ := List.perm_comp_forall₂ hperm hall
  exact .array hall hperm

/-- Any element can be put first. -/
theorem Rearranged.exists_first (hitem : item ∈ items) (h : Rearranged item first) :
    ∃ others, Rearranged (.array items) (.array (first :: others)) := by
  obtain ⟨before, behind, rfl⟩ := List.append_of_mem hitem
  exact ⟨before ++ behind, .of_perm List.perm_middle
    (.cons h (List.forall₂_same.2 fun v _ => .refl v))⟩

/-- Any element can be put first, and another one behind it. -/
theorem Rearranged.exists_first_second {other second : Value} (hitem : item ∈ items)
    (hother : other ∈ items) (hne : other ≠ item) (h : Rearranged item first)
    (h' : Rearranged other second) :
    ∃ others, Rearranged (.array items) (.array (first :: second :: others)) := by
  obtain ⟨before, behind, rfl⟩ := List.append_of_mem hitem
  have hmem : other ∈ before ++ behind := by
    rcases List.mem_append.1 hother with hother | hother
    · exact List.mem_append_left _ hother
    · exact List.mem_append_right _ (List.mem_of_ne_of_mem hne hother)
  obtain ⟨before', behind', heq⟩ := List.append_of_mem hmem
  refine ⟨before' ++ behind', .of_perm (List.perm_middle.trans ?_)
    (.cons h (.cons h' (List.forall₂_same.2 fun v _ => .refl v)))⟩
  rw [heq]
  exact List.perm_middle.cons item

/-- What stands in an array is led to in another order. -/
theorem Below.exists_rearranged (h : Below x d v) : ∃ v', Rearranged v v' ∧ Leads x d v' := by
  induction h with
  | self => exact ⟨x, .refl x, .self⟩
  | item hitem _ ih =>
    obtain ⟨first, hmoved, hleads⟩ := ih
    obtain ⟨others, hmoved⟩ := hmoved.exists_first hitem
    exact ⟨_, hmoved, .first hleads⟩

/-- The array is accepted in every order. -/
def Steady (v : Value) : Prop := ∀ v', Rearranged v v' → AllAlike v'

theorem AllAlike.of_mem (h : AllAlike (.array items)) (hitem : item ∈ items) : AllAlike item := by
  cases h with
  | plain hv => exact absurd rfl hv
  | array hitems => exact hitems item hitem

theorem AllAlike.alike (h : AllAlike (.array items)) : Alike items := by
  cases h with
  | plain hv => exact absurd rfl hv
  | array _ halike => exact halike

theorem Steady.of_mem (h : Steady (.array items)) (hitem : item ∈ items) : Steady item := by
  intro item' hmoved
  obtain ⟨others, hmoved⟩ := hmoved.exists_first hitem
  exact (h _ hmoved).of_mem List.mem_cons_self

/-- **In an array that is accepted in every order the plain values are of one kind and stand at
    one depth, and arrays stand only above it.** Two values of different elements are compared in
    the order in which the first elements lead to both. -/
theorem Steady.suits (h : Steady v) (hx : Below x d v) (hplain : x.IsPlain) (hy : Below y e v) :
    Suits x.kind d e y := by
  induction hx generalizing y e with
  | self =>
    obtain ⟨rfl, rfl⟩ := hy.eq_of_isPlain hplain
    exact .of_eq hplain rfl
  | @item d a items ha hx ih =>
    cases hy with
    | self => exact .above (not_not_intro rfl) (Nat.succ_pos d)
    | @item e b _ hb hy =>
      rw [suits_succ_iff]
      by_cases hab : a = b
      · subst hab
        exact ih (h.of_mem ha) hy
      · -- the first elements of `b'` lead to `y`, and those of `a'` behind it to `x`
        obtain ⟨a', ha', hleads⟩ := hx.exists_rearranged
        obtain ⟨b', hb', hleads'⟩ := hy.exists_rearranged
        obtain ⟨others, hmoved⟩ := Rearranged.exists_first_second hb ha hab hb' ha'
        have hshape : SameShape a' b' :=
          (h _ hmoved).alike b' rfl a' (List.mem_cons_of_mem _ List.mem_cons_self)
        exact hleads.of_sameShape hshape hleads' hplain

/-! ## Regular arrays -/

/-- The plain values are of one kind and stand at one depth, and arrays stand only above it. -/
inductive Regular (kind : Kind) : ℕ → Value → Prop
  | plain {v : Value} : v.IsPlain → v.kind = kind → Regular kind 0 v
  | array {d : ℕ} {items : List Value} : (∀ item ∈ items, Regular kind d item) →
      Regular kind (d + 1) (.array items)

theorem Regular.of_below (h : ∀ x e, Below x e v → Suits kind d e x) : Regular kind d v := by
  induction d generalizing v with
  | zero =>
    have hplain : v.IsPlain := by
      by_contra hv
      exact Nat.not_lt_zero 0 ((h v 0 .self).array hv)
    exact .plain hplain ((h v 0 .self).plain hplain).2
  | succ d ih =>
    have hv : ¬ v.IsPlain := fun hv => Nat.succ_ne_zero d ((h v 0 .self).plain hv).1.symm
    cases v with
    | array items =>
      exact .array fun item hitem => ih fun x e hx => suits_succ_iff.1 (h x (e + 1) (.item hitem hx))
    | _ => exact absurd nofun hv

theorem Regular.eq_of_below (h : Regular kind d v) (hx : Below x e v) (hplain : x.IsPlain) :
    e = d ∧ x.kind = kind := by
  induction h generalizing e with
  | plain hv hkind =>
    obtain ⟨rfl, rfl⟩ := hx.eq_of_isPlain hv
    exact ⟨rfl, hkind⟩
  | array _ ih =>
    cases hx with
    | self => exact absurd rfl hplain
    | item hitem hx => exact (ih _ hitem hx).imp_left (congrArg (· + 1))

theorem Regular.oneKind (h : Regular kind d v) : OneKind v := by
  intro e x y hx hy hplain hplain'
  rw [(h.eq_of_below hx hplain).2, (h.eq_of_below hy hplain').2]

theorem Regular.sameShape (h : Regular kind d v) (h' : Regular kind d w) : SameShape v w := by
  induction h generalizing w with
  | plain hv hkind =>
    cases h' with
    | plain _ hkind' => exact .scalar (hkind.trans hkind'.symm) hv
  | @array d items _ ih =>
    cases h' with
    | @array _ items' hitems' =>
      cases items with
      | nil => exact .emptyLeft
      | cons first others =>
        cases items' with
        | nil => exact .emptyRight
        | cons first' others' =>
          exact .nested (ih first List.mem_cons_self (hitems' first' List.mem_cons_self))

theorem Regular.allAlike (h : Regular kind d v) : AllAlike v := by
  induction h with
  | plain hv => exact .plain hv
  | array hitems ih =>
    exact .array ih fun first hfirst item hitem =>
      (hitems item hitem).sameShape (hitems first (List.mem_of_head? hfirst))

/-- A regular array is regular in every order. -/
theorem Regular.of_rearranged (h : Regular kind d v) (hmoved : Rearranged v w) :
    Regular kind d w := by
  induction h generalizing w with
  | plain hv hkind =>
    cases hmoved with
    | plain => exact .plain hv hkind
    | array => exact absurd rfl hv
  | array _ ih =>
    cases hmoved with
    | plain hv => exact absurd rfl hv
    | array hall hperm =>
      refine .array fun item hitem => ?_
      obtain ⟨item', hitem', hmoved⟩ := exists_mem_of_forall₂ hall.flip (hperm.mem_iff.2 hitem)
      exact ih item' hitem' hmoved

/-- **The arrays that are accepted in every order are the regular ones.** -/
theorem steady_iff : Steady v ↔ ∃ kind d, Regular kind d v := by
  constructor
  · intro h
    by_cases hex : ∃ x d, Below x d v ∧ x.IsPlain
    · obtain ⟨x, d, hx, hplain⟩ := hex
      exact ⟨x.kind, d, .of_below fun y e hy => h.suits hx hplain hy⟩
    · -- only arrays: they may stand above any depth that is deep enough
      exact ⟨.string, sizeOf v, .of_below fun y e hy =>
        .above (fun hplain => hex ⟨y, e, hy, hplain⟩) hy.lt_sizeOf⟩
  · rintro ⟨kind, d, h⟩ v' hmoved
    exact (h.of_rearranged hmoved).allAlike

end CourseSite.Directive
