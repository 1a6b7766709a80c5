/-
  What is lost when an argument is turned into JSON.

  * `HoldsNull`: a null stands in a JSON value, at any depth.
  * `holdsNull_toJson_iff`: it does just if a double that is not finite stands in the value.
  * `FloatLiteral`: the literal of a double, where it stands in the text of its call.
  * `null_iff_overflow`: in an argument of a document this is so just if the magnitude of a literal
    is out of range; everything else keeps its place.
  * `long_number_is_null`: a number of 310 digits is read as infinity, and becomes a null.
-/
import CourseSite.Proofs.Decimal.Overflow
import CourseSite.Proofs.Directive.Display
import CourseSite.Proofs.Directive.Refusal
import CourseSite.Proofs.Directive.Uniformity

namespace CourseSite

/-- A null stands in the JSON value, at any depth. -/
inductive Json.HoldsNull : Json → Prop
  | self : HoldsNull .null
  | item {item : Json} {items : List Json} : item ∈ items → HoldsNull item →
      HoldsNull (.array items)
  | member {pair : String × Json} {members : List (String × Json)} : pair ∈ members →
      HoldsNull pair.2 → HoldsNull (.object members)

namespace Directive

open Double (overflowBound)
open Grammar (Denotes Digits IsSign Numeral decimal decimal_append decimal_replicate
  digits_replicate)

/-! ## Nulls -/

/-- **A null stands in the JSON of a value just if a double that is not finite stands in it.** -/
theorem holdsNull_toJson_iff (value : Value) :
    value.toJson.HoldsNull ↔ ∃ x, Occurs (.float x) value ∧ x.isFinite = false := by
  cases value with
  | string | integer | bool =>
    rw [Value.toJson]
    constructor
    · intro hnull
      cases hnull
    · rintro ⟨x, hoccurs, -⟩
      cases hoccurs
  | float y =>
    rw [Value.toJson]
    cases hfinite : y.isFinite with
    | true =>
      constructor
      · intro hnull
        cases hnull
      · rintro ⟨x, hoccurs, hx⟩
        cases hoccurs
        rw [hfinite] at hx
        cases hx
    | false => exact iff_of_true .self ⟨y, .self, hfinite⟩
  | array items =>
    rw [Value.toJson, Value.itemsToJson_eq]
    constructor
    · intro hnull
      cases hnull with
      | item hmem hnull =>
        obtain ⟨item, hitem, rfl⟩ := List.mem_map.1 hmem
        have hsize := List.sizeOf_lt_of_mem hitem
        obtain ⟨x, hoccurs, hx⟩ := (holdsNull_toJson_iff item).1 hnull
        exact ⟨x, .item hitem hoccurs, hx⟩
    · rintro ⟨x, hoccurs, hx⟩
      cases hoccurs with
      | @item item _ hitem hoccurs =>
        have hsize := List.sizeOf_lt_of_mem hitem
        exact .item (List.mem_map_of_mem hitem) ((holdsNull_toJson_iff item).2 ⟨x, hoccurs, hx⟩)
  | object fields =>
    have hmembers (pair : String × Json) :
        pair ∈ (Value.membersToJson fields).mergeSort (fun a b => a.1 ≤ b.1) ↔
          ∃ field ∈ fields, (field.1, field.2.toJson) = pair := by
      rw [(List.mergeSort_perm _ _).mem_iff, Value.membersToJson_eq, List.mem_map]
    rw [Value.toJson]
    constructor
    · intro hnull
      cases hnull with
      | member hmem hnull =>
        obtain ⟨⟨key, value⟩, hfield, rfl⟩ := (hmembers _).1 hmem
        have hsize := List.sizeOf_lt_of_mem hfield
        obtain ⟨x, hoccurs, hx⟩ := (holdsNull_toJson_iff value).1 hnull
        exact ⟨x, .field hfield hoccurs, hx⟩
    · rintro ⟨x, hoccurs, hx⟩
      cases hoccurs with
      | @field pair _ hfield hoccurs =>
        obtain ⟨key, value⟩ := pair
        have hsize := List.sizeOf_lt_of_mem hfield
        exact .member ((hmembers _).2 ⟨(key, value), hfield, rfl⟩)
          ((holdsNull_toJson_iff value).2 ⟨x, hoccurs, hx⟩)
termination_by value
decreasing_by
  all_goals
    simp only [Prod.mk.sizeOf_spec, Value.array.sizeOf_spec, Value.object.sizeOf_spec] at hsize ⊢
    omega

/-! ## Places -/

/-- The object keeps every field under its key. -/
structure KeepsFields (fields : Fields Value) (json : Json) : Prop where
  nodup : fields.keys.Nodup
  members : ∃ members, json = .object members ∧ (Fields.keys members).Nodup ∧
    (Fields.keys members).Perm fields.keys ∧
    ∀ key, Fields.get? members key = (fields.get? key).map Value.toJson

theorem keepsFields_toJson {fields : Fields Value} (h : fields.keys.Nodup) :
    KeepsFields fields (Value.object fields).toJson := by
  have hkeys : (Fields.keys ((Value.membersToJson fields).mergeSort fun a b => a.1 ≤ b.1)).Perm
      fields.keys := by
    have hfields : Fields.keys (Value.membersToJson fields) = fields.keys := by
      rw [Value.membersToJson_eq, Fields.keys, List.map_map]
      rfl
    rw [← hfields]
    exact (List.mergeSort_perm _ _).map _
  exact ⟨h, _, Value.toJson.eq_def _, hkeys.nodup_iff.2 h, hkeys, Value.get?_members h⟩

/-! ## Literals of doubles -/

/-- The literal of a double, which stands in the text: a sign, and digits with a point between
    them. -/
structure FloatLiteral (text sign whole fraction : List Char) (x : Double) : Prop where
  stands : sign ++ whole ++ '.' :: fraction <:+: text
  isSign : IsSign sign
  digits : Digits (whole ++ fraction)
  negative : x.negative = decide (sign = ['-'])
  nearest : Double.IsNearest (decimal (whole ++ fraction) * 10 ^ (-fraction.length : ℤ)) x

theorem Occurs.exists_literal {x : Double} {value : Value} {cs : List Char}
    (h : Occurs (.float x) value) (hvalue : Denotes cs value) :
    ∃ sign whole fraction, FloatLiteral cs sign whole fraction x := by
  obtain ⟨literal, hliteral, hin⟩ := h.exists_infix hvalue
  cases hliteral with
  | truth h => cases h
  | number h =>
    obtain _ | @⟨sign, whole, fraction, _, hsign, hwhole, hfraction, -, hnegative, hnearest⟩ := h
    exact ⟨sign, whole, fraction, hin, hsign, hwhole.append hfraction, hnegative, hnearest⟩

theorem FloatLiteral.mono {text text' sign whole fraction : List Char} {x : Double}
    (h : FloatLiteral text sign whole fraction x) (hin : text <:+: text') :
    FloatLiteral text' sign whole fraction x :=
  { h with stands := h.stands.trans hin }

/-- The double is infinite just if the literal is out of range. -/
theorem FloatLiteral.isFinite_eq_false_iff {text sign whole fraction : List Char} {x : Double}
    (h : FloatLiteral text sign whole fraction x) : x.isFinite = false ↔
      overflowBound ≤ decimal (whole ++ fraction) * 10 ^ (-fraction.length : ℤ) := by
  rw [← not_lt, ← h.nearest.isFinite_iff, Bool.not_eq_true]

/-! ## Arguments -/

/-- **What conversion to JSON loses.**  In an argument of a document no double is a NaN, and one is
    infinite just if the magnitude of its literal is at least `overflowBound`; the literal stands in
    the text of the call.  A null stands in the JSON of the argument just if such a double stands in
    the argument.  Otherwise nothing is lost: every array keeps its elements in order, and every
    object its fields under their keys. -/
theorem null_iff_overflow {source : String} {segments : List Segment} {call : Call} {value : Value}
    (hparse : Segment.parse source = .ok segments) (hcall : call ∈ Segment.calls segments)
    (hvalue : value ∈ call.arguments) :
    (value.toJson.HoldsNull ↔ ∃ x, Occurs (.float x) value ∧ x.isFinite = false) ∧
      (∀ x, Occurs (.float x) value → x.isNaN = false ∧ ∃ sign whole fraction,
        FloatLiteral call.rawArguments.toList sign whole fraction x ∧
          (x.isFinite = false ↔
            overflowBound ≤ decimal (whole ++ fraction) * 10 ^ (-fraction.length : ℤ))) ∧
      (∀ items, Occurs (.array items) value →
        (Value.array items).toJson = .array (items.map Value.toJson)) ∧
      ∀ fields, Occurs (.object fields) value → KeepsFields fields (Value.object fields).toJson := by
  obtain ⟨_, _, _, hcall⟩ := ((Segment.parse_eq_iff _ _).1 hparse).isCall rfl call hcall
  obtain ⟨entry, hentry, hin⟩ :=
    exists_infix_of_listed (listed_of_parseArguments hcall.arguments) value hvalue
  refine ⟨holdsNull_toJson_iff value, fun x hoccurs => ?_, fun items _ => ?_,
    fun fields hoccurs => ?_⟩
  · obtain ⟨sign, whole, fraction, hliteral⟩ := hoccurs.exists_literal hentry
    exact ⟨hliteral.nearest.number, sign, whole, fraction, hliteral.mono hin,
      hliteral.isFinite_eq_false_iff⟩
  · rw [Value.toJson, Value.itemsToJson_eq]
  · obtain ⟨_, hobject⟩ := hoccurs.exists_denotes hentry
    cases distinct_of_denotes hobject with
    | object hnodup => exact keepsFields_toJson hnodup

/-- A number in range is kept, in its place. -/
theorem null_iff_overflow_point :
    ∃ call value, Segment.parse "@Plot(\x7bto: [1.5], at: -0.5\x7d)" = .ok [.call call] ∧
      call.arguments = [value] ∧ ¬ value.toJson.HoldsNull ∧
      KeepsFields [("to", .array [.float (Double.ofDecimal false 15 (-1))]),
        ("at", .float (Double.ofDecimal true 5 (-1)))] value.toJson := by
  have hparse : Segment.parse "@Plot(\x7bto: [1.5], at: -0.5\x7d)" =
      .ok [.call ⟨"Plot", [.object [("to", .array [.float (Double.ofDecimal false 15 (-1))]),
        ("at", .float (Double.ofDecimal true 5 (-1)))]], "\x7bto: [1.5], at: -0.5\x7d",
        ⟨0, 28⟩, 1⟩] := by cbv
  obtain ⟨hnull, -, -, hkeeps⟩ := null_iff_overflow hparse List.mem_cons_self List.mem_cons_self
  refine ⟨_, _, hparse, rfl, fun h => ?_, hkeeps _ .self⟩
  obtain ⟨x, hoccurs, hx⟩ := hnull.1 h
  cases hoccurs with
  | field hpair hoccurs =>
    simp only [List.mem_cons, List.not_mem_nil, or_false] at hpair
    rcases hpair with rfl | rfl
    · cases hoccurs with
      | item hitem hoccurs =>
        obtain rfl := List.mem_singleton.1 hitem
        cases hoccurs
        exact absurd hx (by decide)
    · cases hoccurs
      exact absurd hx (by decide)

/-! ## A number out of range -/

/-- A one and some zeros before the point. -/
def roundNumber (zeros : ℕ) : String := "1" ++ String.ofList (List.replicate zeros '0') ++ ".0"

theorem overflowBound_le_pow : overflowBound ≤ 10 ^ 309 := by
  have hpow : (2 : ℚ) ^ 1024 = (2 ^ 64) ^ 16 := by rw [← pow_mul]
  calc overflowBound ≤ 2 ^ 1024 := sub_le_self _ (by positivity)
    _ = (2 ^ 64) ^ 16 := hpow
    _ ≤ (2 * 10 ^ 19) ^ 16 := by gcongr; norm_num
    _ = 2 ^ 16 * 10 ^ 304 := by rw [mul_pow, ← pow_mul]
    _ ≤ 10 ^ 5 * 10 ^ 304 := by gcongr; norm_num
    _ = 10 ^ 309 := by rw [← pow_add]

theorem numeral_roundNumber {zeros : ℕ} {x : Double} (hx : x.negative = false)
    (h : Double.IsNearest (10 ^ zeros) x) : Numeral (roundNumber zeros).toList (.float x) := by
  have htext : (roundNumber zeros).toList =
      [] ++ '1' :: List.replicate zeros '0' ++ '.' :: ['0'] := by
    simp [roundNumber]
  have hvalue : (decimal ('1' :: List.replicate zeros '0' ++ ['0']) *
      10 ^ (-['0'].length : ℤ) : ℚ) = 10 ^ zeros := by
    have hone : '1'.toNat - '0'.toNat = 1 := rfl
    have hzero : decimal ['0'] = 0 := decimal_replicate 1
    rw [decimal_append, hzero, decimal, decimal_replicate, List.length_replicate, hone]
    simp
  rw [htext]
  refine .float (.inl rfl) (List.forall_mem_cons.2 ⟨rfl, digits_replicate zeros⟩)
    (digits_replicate 1) (List.cons_ne_nil _ _) (by simpa using hx) ?_
  rwa [hvalue]

/-- A number of 310 digits is read as infinity, and becomes a null. -/
theorem long_number_is_null :
    ∃ call, Segment.parse ("@" ++ "V" ++ "(" ++ roundNumber 309 ++ ")") = .ok [.call call] ∧
      call.arguments = [.float (Double.infinity false)] ∧
      (Value.float (Double.infinity false)).toJson = .null := by
  have hnearest := Double.isNearest_ofDecimal false 1 309
  rw [Nat.cast_one, one_mul] at hnearest
  have hinfinity := hnearest.eq_infinity overflowBound_le_pow
  rw [Double.ofDecimal_negative] at hinfinity
  rw [hinfinity] at hnearest
  have hname : Segment.IsIdentifier "V".toList := ⟨rfl, List.forall_mem_nil _⟩
  have hnumeral : Numeral (roundNumber 309).toList (.float (Double.infinity false)) :=
    numeral_roundNumber rfl hnearest
  obtain ⟨call, hparse, -, harguments⟩ := Segment.parse_of_denotes hname (.number hnumeral)
  exact ⟨call, hparse, harguments, by rw [Value.toJson]; rfl⟩

end Directive

end CourseSite
