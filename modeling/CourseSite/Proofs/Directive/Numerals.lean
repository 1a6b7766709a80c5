/-
  Displayed numbers as literals.

  * `numeral_toString`: the text of an integer is a literal of it.
  * `exists_positional`: digits laid out with a point stand for the number they stand for with
    an exponent.
  * `numeral_render`: the text of a moderate double is a literal of it.
  * `isModerate_of_numeral`: a double whose text starts with a literal of it is moderate, as a
    letter stands in the text of every other one.
-/
import CourseSite.Proofs.Decimal.Shortest
import CourseSite.Proofs.Directive.Reading

namespace CourseSite.Directive.Grammar

open Literal (digitsValue endsNumber)
open Double (IsModerate IsNearest)

variable {cs digits used tail rest : List Char} {x : Double} {v : Value}

/-! ## Digits -/

theorem decimal_append (cs cs' : List Char) :
    decimal (cs ++ cs') = decimal cs * 10 ^ cs'.length + decimal cs' := by
  induction cs with
  | nil => rw [List.nil_append, decimal, Nat.zero_mul, Nat.zero_add]
  | cons c cs ih =>
    rw [List.cons_append, decimal, decimal, ih, List.length_append, Nat.pow_add]
    ring

theorem decimal_replicate (k : ℕ) : decimal (List.replicate k '0') = 0 := by
  induction k with
  | zero => rfl
  | succ k ih => rw [List.replicate_succ, decimal, ih, Nat.sub_self, Nat.zero_mul]

theorem decimal_toDigits (n : ℕ) : decimal (Nat.toDigits 10 n) = n := by
  rw [← digitsValue_eq]
  exact Nat.ofDigitChars_ten_toDigits

theorem digits_toDigits (n : ℕ) : Digits (Nat.toDigits 10 n) := fun _ hc =>
  Nat.isDigit_of_mem_toDigits (by norm_num) le_rfl hc

theorem digits_replicate (k : ℕ) : Digits (List.replicate k '0') := by
  intro c hc
  rw [List.eq_of_mem_replicate hc]
  rfl

theorem Digits.append (h : Digits cs) (h' : Digits digits) : Digits (cs ++ digits) :=
  List.forall_mem_append.2 ⟨h, h'⟩

/-! ## Integers -/

/-- **The text of an integer is a literal of it.** -/
theorem numeral_toString (n : Int64) : Numeral (toString n.toInt).toList (.integer n) := by
  rcases hn : n.toInt with m | m
  · have htext : (toString (Int.ofNat m)).toList = [] ++ Nat.toDigits 10 m := by
      rw [show toString (Int.ofNat m) = toString m from rfl, Nat.toString_eq_ofList_toDigits,
        String.toList_ofList, List.nil_append]
    rw [htext]
    refine .integer (.inl rfl) (digits_toDigits m) Nat.toDigits_ne_nil ?_
    rw [hn, decimal_toDigits]
    rfl
  · have htext : (toString (Int.negSucc m)).toList = ['-'] ++ Nat.toDigits 10 (m + 1) := by
      rw [show toString (Int.negSucc m) = "-" ++ toString (m + 1) from rfl, String.toList_append,
        Nat.toString_eq_ofList_toDigits, String.toList_ofList, String.toList_ofList]
    rw [htext]
    refine .integer (.inr (.inr rfl)) (digits_toDigits _) Nat.toDigits_ne_nil ?_
    rw [hn, decimal_toDigits]
    rfl

/-! ## Digits with a point -/

/-- **Digits laid out with a point** stand for the number whose leading digit is at `10 ^ e`. -/
theorem exists_positional (hdigits : Digits digits) (hne : digits ≠ []) (e : ℤ) :
    ∃ whole fraction, Double.positional .pointed digits e = whole ++ '.' :: fraction ∧
      Digits whole ∧ Digits fraction ∧ whole ++ fraction ≠ [] ∧
      (decimal (whole ++ fraction) * 10 ^ (-fraction.length : ℤ) : ℚ) =
        decimal digits * 10 ^ (e + 1 - digits.length) := by
  have hlength := List.length_pos_iff.2 hne
  unfold Double.positional
  split
  · -- zeros behind the point
    rename_i he
    refine ⟨['0'], List.replicate (-e - 1).toNat '0' ++ digits, rfl, digits_replicate 1,
      (digits_replicate _).append hdigits, nofun, ?_⟩
    have hvalue : decimal ('0' :: (List.replicate (-e - 1).toNat '0' ++ digits)) =
        decimal digits := by
      rw [decimal, decimal_append, decimal_replicate, Nat.sub_self]
      omega
    rw [List.singleton_append, hvalue, List.length_append, List.length_replicate]
    congr 2
    omega
  dsimp only
  split
  · -- zeros before the point
    refine ⟨digits ++ List.replicate (e.toNat + 1 - digits.length) '0', ['0'], rfl,
      hdigits.append (digits_replicate _), digits_replicate 1, by simp, ?_⟩
    rw [decimal_append, decimal_append, decimal_replicate, List.length_singleton,
      List.length_replicate]
    push_cast
    rw [show (decimal ['0'] : ℚ) = 0 from rfl, add_zero, add_zero, mul_assoc, zpow_neg_one,
      mul_inv_cancel₀ (by norm_num), mul_one, ← zpow_natCast]
    congr 2
    omega
  · -- the point between the digits
    refine ⟨digits.take (e.toNat + 1), digits.drop (e.toNat + 1), rfl,
      fun c hc => hdigits c (List.mem_of_mem_take hc),
      fun c hc => hdigits c (List.mem_of_mem_drop hc), ?_, ?_⟩
    · rw [List.take_append_drop]; exact hne
    · rw [List.take_append_drop, List.length_drop]
      congr 2
      omega

/-! ## Moderate doubles -/

/-- The sign of a displayed double. -/
def signOf (x : Double) : List Char := if x.negative then ['-'] else []

theorem isSign_signOf (x : Double) : IsSign (signOf x) ∧
    x.negative = decide (signOf x = ['-']) := by
  unfold signOf IsSign
  cases x.negative <;> simp

theorem toList_render (hx : x.isNaN = false) : (x.render .pointed).toList =
    signOf x ++ if x.isFinite then x.renderMagnitude .pointed else ['i', 'n', 'f'] := by
  unfold Double.render signOf
  rw [hx, if_neg Bool.false_ne_true]
  cases x.negative <;> cases x.isFinite <;> simp

theorem isFinite_of_isModerate (h : x.IsModerate) : x.isFinite = true := by
  by_contra hrank
  have hle : Double.magnitudeAt Double.infinityRank ≤ x.magnitude := by
    rw [Double.magnitude_eq]
    exact Double.magnitudeAt_strictMono.monotone (by simpa [Double.isFinite] using hrank)
  rw [Double.magnitudeAt_infinityRank] at hle
  have hlarge : (10 : ℚ) ^ (16 : ℤ) < 2 ^ (1024 : ℤ) := by
    calc (10 : ℚ) ^ (16 : ℤ) < 2 ^ (64 : ℤ) := by norm_num
      _ ≤ 2 ^ (1024 : ℤ) := zpow_le_zpow_right₀ (by norm_num) (by norm_num)
  rcases h with h | ⟨-, h⟩
  · rw [h] at hle
    exact absurd hle (by norm_num)
  · exact absurd (hlarge.trans_le hle) (not_lt.2 h.le)

theorem isNaN_of_isFinite (h : x.isFinite = true) : x.isNaN = false := by
  rw [Double.isFinite, decide_eq_true_eq] at h
  exact Double.isNaN_eq_false_iff.2 h.le

/-- **The text of a moderate double is a literal of it.** -/
theorem numeral_render (h : x.IsModerate) : Numeral (x.render .pointed).toList (.float x) := by
  have hfinite := isFinite_of_isModerate h
  have hx := isNaN_of_isFinite hfinite
  obtain ⟨hsign, hnegative⟩ := isSign_signOf x
  rw [toList_render hx, if_pos hfinite]
  unfold Double.renderMagnitude
  split
  · rename_i hrank
    have hzero : IsNearest 0 x :=
      (Double.isNearest_zero false le_rfl (by positivity)).of_rank_eq hrank
    have htext : signOf x ++ '0' :: (if Layout.pointed.keepsPoint then ['.', '0'] else []) =
        signOf x ++ ['0'] ++ '.' :: ['0'] := by rw [List.append_assoc]; rfl
    rw [htext]
    refine .float hsign (digits_replicate 1) (digits_replicate 1) nofun hnegative ?_
    rw [show decimal (['0'] ++ ['0']) = 0 from rfl, Nat.cast_zero, zero_mul]
    exact hzero
  · rename_i hrank
    have hshortest := Double.isNearest_shortest Layout.pointed.tieUp hx hrank
    obtain ⟨whole, fraction, htext, hwhole, hfraction, hne, hvalue⟩ :=
      exists_positional (digits_toDigits (x.shortest Layout.pointed.tieUp).digits)
        Nat.toDigits_ne_nil (x.shortest Layout.pointed.tieUp).lead
    have hpositional := (Double.isPositional_iff hx hrank).2 h
    unfold Decimal.lead at hpositional htext hvalue
    dsimp only
    rw [if_pos hpositional, htext, ← List.append_assoc]
    refine .float hsign hwhole hfraction hne hnegative ?_
    rw [hvalue, decimal_toDigits, sub_add_cancel, add_sub_cancel_right]
    exact hshortest

/-! ## Other doubles -/

/-- The character may follow an argument: it may follow a value, or closes the call. -/
def endsArgument (c : Char) : Bool := endsNumber c || c = ')'

/-- A character of a displayed number without an exponent. -/
def isNumeric (c : Char) : Bool := c.isDigit || c = '.' || c = '-'

theorem not_isNumeric_of_endsArgument {c : Char} (h : endsArgument c = true) :
    isNumeric c = false ∧ c.isAlpha = false := by
  rw [endsArgument, Bool.or_eq_true, decide_eq_true_eq] at h
  rcases h with h | rfl
  · rcases endsNumber_cases h with hb | rfl | rfl | rfl
    · have := Text.forall_isBlank (p := fun c => !isNumeric c && !c.isAlpha) (by decide +kernel) hb
      simpa using this
    all_goals decide
  · decide

theorem Numeral.not_isAlpha (h : Numeral used v) : ∀ c ∈ used, c.isAlpha = false := by
  have hdigit {c : Char} (hc : c.isDigit = true) : c.isAlpha = false := by
    have hc := Text.isDigit_iff.1 hc
    rw [← Bool.not_eq_true, Text.isAlpha_iff]
    omega
  have hsign {sign : List Char} (h : IsSign sign) : ∀ c ∈ sign, c.isAlpha = false := by
    rcases h with rfl | rfl | rfl <;> simp [Char.isAlpha]
  cases h with
  | integer hs hd =>
    exact List.forall_mem_append.2 ⟨hsign hs, fun c hc => hdigit (hd c hc)⟩
  | float hs hw hf =>
    simp only [List.forall_mem_append, List.forall_mem_cons]
    exact ⟨⟨hsign hs, fun c hc => hdigit (hw c hc)⟩, by decide, fun c hc => hdigit (hf c hc)⟩

/-- No number stands before a letter that directly follows numeric characters. -/
theorem not_numeral_of_letter {front behind : List Char} {c : Char} (h : Numeral used v)
    (heq : used ++ tail = front ++ c :: behind) (hfront : ∀ d ∈ front, isNumeric d = true)
    (hc : c.isAlpha = true) (htail : Starts endsArgument tail) : False := by
  rcases List.append_eq_append_iff.1 heq with ⟨more, rfl, rfl⟩ | ⟨more, rfl, hmore⟩
  · -- the number ends before the letter
    cases more with
    | nil => simp [(not_isNumeric_of_endsArgument (htail c rfl)).2] at hc
    | cons d more =>
      have hd := hfront d (by simp)
      rw [(not_isNumeric_of_endsArgument (htail d rfl)).1] at hd
      cases hd
  · cases more with
    | nil =>
      rw [List.nil_append] at hmore
      subst hmore
      simp [(not_isNumeric_of_endsArgument (htail c rfl)).2] at hc
    | cons d more =>
      obtain ⟨rfl, -⟩ := List.cons_eq_cons.1 hmore
      rw [h.not_isAlpha c (by simp)] at hc
      cases hc

/-- In the text of a double that is not moderate a letter follows numeric characters. -/
theorem exists_letter_of_not_isModerate (h : ¬ x.IsModerate) :
    ∃ front c behind, (x.render .pointed).toList = front ++ c :: behind ∧
      (∀ d ∈ front, isNumeric d = true) ∧ c.isAlpha = true := by
  have hsign : ∀ d ∈ signOf x, isNumeric d = true := by
    unfold signOf
    split <;> simp [isNumeric]
  have hdigits (digits : List Char) (hd : Digits digits) : ∀ d ∈ digits, isNumeric d = true :=
    fun d h => by simp [isNumeric, hd d h]
  cases hx : x.isNaN with
  | true => exact ⟨[], 'N', ['a', 'N'], by rw [Double.render, if_pos hx]; rfl, nofun, rfl⟩
  | false =>
    cases hfinite : x.isFinite with
    | false =>
      refine ⟨signOf x, 'i', ['n', 'f'], ?_, hsign, rfl⟩
      rw [toList_render hx, hfinite, if_neg Bool.false_ne_true]
    | true =>
      have hrank : x.rank ≠ 0 := by
        intro hrank
        refine h (.inl ?_)
        rw [Double.magnitude_eq, hrank]
        simp [Double.magnitudeAt, Double.leadingBit]
      have hpositional := mt (Double.isPositional_iff hx hrank).1 h
      unfold Decimal.lead at hpositional
      rw [toList_render hx, if_pos hfinite]
      unfold Double.renderMagnitude
      rw [if_neg hrank]
      dsimp only
      rw [if_neg hpositional]
      unfold Double.scientific
      dsimp only
      have hall := digits_toDigits (x.shortest Layout.pointed.tieUp).digits
      generalize Nat.toDigits 10 (x.shortest Layout.pointed.tieUp).digits = digits at hall
      refine ⟨signOf x ++ (digits.take 1 ++ if digits.length ≤ 1 then [] else '.' :: digits.drop 1),
        'e', _, by simp only [List.append_assoc]; rfl, ?_, rfl⟩
      refine List.forall_mem_append.2 ⟨hsign, List.forall_mem_append.2
        ⟨hdigits _ fun c hc => hall c (List.mem_of_mem_take hc), ?_⟩⟩
      split
      · exact nofun
      · exact List.forall_mem_cons.2 ⟨rfl, hdigits _ fun c hc => hall c (List.mem_of_mem_drop hc)⟩

/-- **Only moderate doubles are displayed as their literals.** -/
theorem isModerate_of_numeral (h : Numeral used v)
    (heq : used ++ tail = (x.render .pointed).toList ++ rest) (htail : Starts endsArgument tail) :
    x.IsModerate := by
  by_contra hnot
  obtain ⟨front, c, behind, htext, hfront, hc⟩ := exists_letter_of_not_isModerate hnot
  rw [htext, List.append_assoc, List.cons_append] at heq
  exact not_numeral_of_letter h heq hfront hc htail

end CourseSite.Directive.Grammar
