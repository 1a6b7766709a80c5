/-
  The shortest decimal of a double stands for the double.

  * `Decimal.value`, `Decimal.lead`: the number a decimal stands for, and the place of its
    leading digit.
  * `isNearest_of_close`: what is nearer to a double than a quarter of the least distance
    between doubles of its size is rounded to it.
  * `exists_neighbour`: with seventeen digits there is such a decimal, so that the search for
    the shortest one succeeds; `isNearest_shortest` is what it finds.
  * `IsModerate`, `isPositional_iff`: the doubles that are written without an exponent.
-/
import Mathlib.Data.Nat.Cast.Order.Field
import CourseSite.Decimal.Shortest
import CourseSite.Proofs.Decimal.Nearest

namespace CourseSite

/-! ## Decimals -/

namespace Decimal

/-- The number that a decimal stands for. -/
def value (d : Decimal) : ℚ := d.digits * 10 ^ d.exponent

/-- The place of the leading digit. -/
def lead (d : Decimal) : ℤ := d.exponent + (Nat.toDigits 10 d.digits).length - 1

theorem value_stripZeros (fuel : ℕ) (d : Decimal) : (d.stripZeros fuel).value = d.value := by
  induction fuel generalizing d with
  | zero => rfl
  | succ fuel ih =>
    rw [stripZeros]
    split
    · rename_i h
      have hdigits : (d.digits : ℚ) = (d.digits / 10 : ℕ) * 10 := by
        exact_mod_cast (Nat.div_mul_cancel (Nat.dvd_of_mod_eq_zero h.2)).symm
      rw [ih, value, value, hdigits, zpow_add_one₀ (by norm_num)]
      ring
    · rfl

theorem lt_pow_length (n : ℕ) : n < 10 ^ length n :=
  (Nat.length_toDigits_le_iff (by norm_num) Nat.length_toDigits_pos).1 le_rfl

theorem pow_le_of_lt_length {n k : ℕ} (hn : 0 < n) (hk : k < length n) : 10 ^ k ≤ n := by
  rcases Nat.eq_zero_or_pos k with rfl | hpos
  · exact hn
  · by_contra hlt
    have := (Nat.length_toDigits_le_iff (b := 10) (by norm_num) hpos).2 (not_le.1 hlt)
    rw [length] at hk
    omega

/-- A power of ten is at most a decimal just if its place is at most that of the leading digit. -/
theorem pow_le_value_iff {d : Decimal} (hd : d.digits ≠ 0) (k : ℤ) :
    (10 : ℚ) ^ k ≤ d.value ↔ k ≤ d.lead := by
  have hlength : 0 < length d.digits := Nat.length_toDigits_pos
  have hhigh : (d.digits : ℚ) < 10 ^ length d.digits := by exact_mod_cast lt_pow_length d.digits
  have hlow : (10 : ℚ) ^ (length d.digits - 1) ≤ d.digits := by
    exact_mod_cast pow_le_of_lt_length (Nat.pos_of_ne_zero hd) (by omega)
  have hlead : d.lead = d.exponent + length d.digits - 1 := rfl
  constructor
  · intro hle
    by_contra hgt
    refine absurd hle (not_le.2 ?_)
    calc d.value < 10 ^ length d.digits * 10 ^ d.exponent := by unfold value; gcongr
      _ = 10 ^ (length d.digits + d.exponent : ℤ) := by
        rw [zpow_add₀ (by norm_num), zpow_natCast]
      _ ≤ 10 ^ k := zpow_le_zpow_right₀ (by norm_num) (by omega)
  · intro hle
    calc (10 : ℚ) ^ k ≤ 10 ^ ((length d.digits - 1 : ℕ) + d.exponent : ℤ) :=
          zpow_le_zpow_right₀ (by norm_num) (by omega)
      _ = 10 ^ (length d.digits - 1) * 10 ^ d.exponent := by
        rw [zpow_add₀ (by norm_num), zpow_natCast]
      _ ≤ d.value := by unfold value; gcongr

end Decimal

namespace Double

variable {q q' : ℚ} {x y : Double}

/-! ## Rounding and order -/

/-- Rounding does not look at the sign. -/
theorem IsNearest.of_rank_eq (h : IsNearest q x) (hrank : y.rank = x.rank) : IsNearest q y := by
  have hvalue : y.magnitude = x.magnitude := by rw [magnitude_eq, magnitude_eq, hrank]
  have hnumber : y.isNaN = false := by
    rw [isNaN_eq_false_iff, hrank, ← isNaN_eq_false_iff]
    exact h.number
  refine ⟨hnumber, fun z hz => ?_, fun z hz hne heq => ?_⟩
  · rw [hvalue]
    exact h.nearest z hz
  · rw [significand_mod_two, hrank, ← significand_mod_two]
    rw [hrank] at hne
    rw [hvalue] at heq
    exact h.even z hz hne heq

/-- Only one rank is nearest. -/
theorem IsNearest.rank_eq (hx : IsNearest q x) (hy : IsNearest q y) : x.rank = y.rank := by
  have hx' : IsNearest q ⟨y.negative, x.rank, x.rank_lt⟩ := hx.of_rank_eq rfl
  exact (congrArg rank (hx'.unique hy rfl) :)

/-- Rounding keeps the order. -/
theorem IsNearest.rank_le (hx : IsNearest q x) (hy : IsNearest q' y) (hle : q ≤ q') :
    x.rank ≤ y.rank := by
  by_contra hlt
  have hless : y.magnitude < x.magnitude := by
    rw [magnitude_eq, magnitude_eq]; exact magnitudeAt_strictMono (not_le.1 hlt)
  -- The numbers lie on the wrong sides of the middle, so both are the middle itself, where only
  -- one double is nearest.
  have habove : x.magnitude + y.magnitude ≤ 2 * q := by
    have hnear := hx.nearest y hy.number
    rcases abs_cases (q - x.magnitude) with ⟨h, _⟩ | ⟨h, _⟩ <;>
      rcases abs_cases (q - y.magnitude) with ⟨h', _⟩ | ⟨h', _⟩ <;> linarith
  have hbelow : 2 * q' ≤ x.magnitude + y.magnitude := by
    have hnear := hy.nearest x hx.number
    rcases abs_cases (q' - x.magnitude) with ⟨h, _⟩ | ⟨h, _⟩ <;>
      rcases abs_cases (q' - y.magnitude) with ⟨h', _⟩ | ⟨h', _⟩ <;> linarith
  have heq : q = q' := by linarith
  exact hlt (hx.rank_eq (heq ▸ hy)).le

/-- A double is rounded to itself. -/
theorem isNearest_magnitude (hx : x.isNaN = false) : IsNearest x.magnitude x := by
  refine ⟨hx, fun y _ => ?_, fun y _ hne heq => ?_⟩
  · rw [sub_self, abs_zero]
    exact abs_nonneg _
  · rw [sub_self, abs_zero, abs_eq_zero, sub_eq_zero, magnitude_eq, magnitude_eq] at heq
    exact absurd (magnitudeAt_strictMono.injective heq).symm hne

/-- Neighbours are apart by at least one part in `2 ^ 53` of the greater one. -/
theorem magnitudeAt_succ_le (rank : ℕ) :
    magnitudeAt (rank + 1) ≤ 2 ^ 53 * (magnitudeAt (rank + 1) - magnitudeAt rank) := by
  obtain ⟨p, m, rfl, hm, hp⟩ := exists_place rank
  have hunits : ((m + 1 : ℕ) : ℚ) ≤ 2 ^ 53 := by
    exact_mod_cast (show m + 1 ≤ 2 ^ 53 by rw [leadingBit] at hm; omega)
  rw [Nat.add_assoc, magnitudeAt_place (Nat.le_of_lt hm) hp, magnitudeAt_place hm (by omega),
    ← sub_mul, ← mul_assoc]
  push_cast at hunits ⊢
  rw [add_sub_cancel_left, mul_one]
  gcongr

/-- So are any two. -/
theorem magnitude_le_abs_sub (hne : y.rank ≠ x.rank) :
    x.magnitude ≤ 2 ^ 53 * |y.magnitude - x.magnitude| := by
  rw [magnitude_eq, magnitude_eq]
  rcases Nat.lt_or_gt_of_ne hne with hlt | hgt
  · -- the double below `x` is at least `y`
    obtain ⟨r, hr⟩ : ∃ r, x.rank = r + 1 := ⟨x.rank - 1, by omega⟩
    have hle : magnitudeAt y.rank ≤ magnitudeAt r := magnitudeAt_strictMono.monotone (by omega)
    have hstep := magnitudeAt_succ_le r
    rw [hr, abs_sub_comm]
    calc magnitudeAt (r + 1) ≤ 2 ^ 53 * (magnitudeAt (r + 1) - magnitudeAt r) := hstep
      _ ≤ 2 ^ 53 * (magnitudeAt (r + 1) - magnitudeAt y.rank) := by gcongr
      _ ≤ 2 ^ 53 * |magnitudeAt (r + 1) - magnitudeAt y.rank| := by gcongr; exact le_abs_self _
  · have hle : magnitudeAt (x.rank + 1) ≤ magnitudeAt y.rank :=
      magnitudeAt_strictMono.monotone hgt
    have hless : magnitudeAt x.rank < magnitudeAt (x.rank + 1) :=
      magnitudeAt_strictMono (Nat.lt_succ_self _)
    calc magnitudeAt x.rank ≤ magnitudeAt (x.rank + 1) := hless.le
      _ ≤ 2 ^ 53 * (magnitudeAt (x.rank + 1) - magnitudeAt x.rank) := magnitudeAt_succ_le _
      _ ≤ 2 ^ 53 * (magnitudeAt y.rank - magnitudeAt x.rank) := by gcongr
      _ ≤ 2 ^ 53 * |magnitudeAt y.rank - magnitudeAt x.rank| := by gcongr; exact le_abs_self _

/-- **What is close enough is rounded to the double.** -/
theorem isNearest_of_close (hx : x.isNaN = false)
    (hclose : 2 ^ 54 * |q - x.magnitude| < x.magnitude) : IsNearest q x := by
  have hcloser (y : Double) (hne : y.rank ≠ x.rank) :
      |q - x.magnitude| < |q - y.magnitude| := by
    have hapart := magnitude_le_abs_sub hne
    have htriangle : |y.magnitude - x.magnitude| ≤ |q - x.magnitude| + |q - y.magnitude| := by
      rw [abs_sub_comm q y.magnitude, add_comm]
      exact abs_sub_le _ _ _
    linarith
  refine ⟨hx, fun y _ => ?_, fun y _ hne heq => absurd heq (hcloser y hne).ne'⟩
  by_cases hrank : y.rank = x.rank
  · rw [magnitude_eq y, hrank, magnitude_eq]
  · exact (hcloser y hrank).le

/-! ## The search for the shortest decimal -/

theorem numerator_div_denominator (x : Double) :
    (x.numerator / x.denominator : ℚ) = x.magnitude := by
  have hratio := shiftLeft_div_shiftLeft x.significand 1 (-x.exponent)
  rw [neg_neg, zpow_neg, div_inv_eq_mul, Nat.cast_one, div_one] at hratio
  exact hratio

theorem denominator_pos (x : Double) : 0 < x.denominator := by
  rw [denominator, Nat.one_shiftLeft]
  exact Nat.two_pow_pos _

theorem magnitude_pos (hx : x.rank ≠ 0) : 0 < x.magnitude := by
  have hzero : magnitudeAt 0 = 0 := by simp [magnitudeAt, leadingBit]
  rw [magnitude_eq, ← hzero]
  exact magnitudeAt_strictMono (Nat.pos_of_ne_zero hx)

theorem numerator_pos (hx : x.rank ≠ 0) : 0 < x.numerator := by
  have hpos := magnitude_pos hx
  rw [← numerator_div_denominator] at hpos
  rw [Nat.pos_iff_ne_zero]
  intro hzero
  rw [hzero, Nat.cast_zero, zero_div] at hpos
  exact hpos.false

/-- The power of ten at the leading digit is at most the quotient. -/
theorem pow_leadingDecimal_le {n d : ℕ} (hn : 0 < n) (hd : 0 < d) :
    (10 : ℚ) ^ leadingDecimal n d ≤ n / d := by
  have hnq : (0 : ℚ) < n := by exact_mod_cast hn
  have hdq : (0 : ℚ) < d := by exact_mod_cast hd
  unfold leadingDecimal
  split
  · rename_i hle
    have hpos : 0 < n / d := Nat.div_pos hle hd
    have hlength : 0 < Decimal.length (n / d) := Nat.length_toDigits_pos
    have hlow : (10 : ℚ) ^ (Decimal.length (n / d) - 1) ≤ (n / d : ℕ) := by
      exact_mod_cast Decimal.pow_le_of_lt_length hpos (by omega)
    rw [show (Decimal.length (n / d) : ℤ) - 1 = (Decimal.length (n / d) - 1 : ℕ) by omega,
      zpow_natCast]
    exact hlow.trans Nat.cast_div_le
  · rename_i hlt
    -- the quotient is at least the inverse of a whole number
    have hceil : d ≤ n * ((d + n - 1) / n) := by
      have h := Nat.div_add_mod (d + n - 1) n
      have hmod := Nat.mod_lt (d + n - 1) hn
      omega
    have hhigh : (d + n - 1) / n ≤ 10 ^ Decimal.length ((d + n - 1) / n - 1) := by
      have := Decimal.lt_pow_length ((d + n - 1) / n - 1)
      omega
    have hle : (d : ℚ) ≤ n * 10 ^ Decimal.length ((d + n - 1) / n - 1) := by
      exact_mod_cast hceil.trans (Nat.mul_le_mul_left n hhigh)
    rw [zpow_neg, zpow_natCast, inv_le_comm₀ (by positivity) (by positivity), inv_div,
      div_le_iff₀ hnq, mul_comm]
    exact hle

/-- A decimal reads back just if it is rounded to the double. -/
theorem readsBack_iff (d : Decimal) :
    x.readsBack d = true ↔ IsNearest d.value x := by
  have hnearest := isNearest_ofDecimal false d.digits d.exponent
  rw [readsBack, beq_iff_eq]
  exact ⟨fun hrank => hnearest.of_rank_eq hrank.symm, fun h => hnearest.rank_eq h⟩

/-- What the search finds on a grid is rounded to the double. -/
theorem isNearest_neighbour {tieUp : Bool} {count : ℕ} {d : Decimal}
    (h : x.neighbour? tieUp count = some d) : IsNearest d.value x := by
  rw [← readsBack_iff]
  unfold neighbour? at h
  dsimp only at h
  split at h
  · rename_i hbelow _; cases h; exact hbelow
  · rename_i _ habove; cases h; exact habove
  · cases h
  · rename_i hbelow habove
    split at h
    · cases h; exact hbelow
    · split at h
      · cases h; exact habove
      · split at h <;> cases h
        · exact habove
        · exact hbelow

/-- Of the two decimals around a quotient one is not farther than half a unit. -/
theorem exists_close_neighbour (top : ℕ) {step : ℕ} (hstep : 0 < step) :
    ∃ k, (k = top / step ∨ k = top / step + 1) ∧ |(k : ℚ) - top / step| ≤ 1 / 2 := by
  have hstepq : (0 : ℚ) < step := by exact_mod_cast hstep
  have hlow : ((top / step : ℕ) : ℚ) ≤ top / step := Nat.cast_div_le
  have hhigh : (top / step : ℚ) < (top / step : ℕ) + 1 := by
    rw [div_lt_iff₀ hstepq]
    exact_mod_cast Nat.lt_mul_of_div_lt (Nat.lt_succ_self (top / step)) hstep
  rcases le_total (top / step : ℚ) ((top / step : ℕ) + 1 / 2) with h | h
  · exact ⟨_, .inl rfl, by rw [abs_of_nonpos (by linarith)]; linarith⟩
  · refine ⟨_, .inr rfl, ?_⟩
    push_cast
    rw [abs_of_nonneg (by linarith)]
    linarith

/-- Counted in units of a power of ten, a quotient stays the same number. -/
theorem scaled_div_scaled (n d : ℕ) (place : ℤ) :
    ((n * Nat.pow 10 (-place).toNat : ℕ) : ℚ) / (d * Nat.pow 10 place.toNat : ℕ) * 10 ^ place =
      n / d := by
  have hten : (10 : ℚ) ^ place = 10 ^ place.toNat / 10 ^ (-place).toNat := by
    rw [← zpow_natCast, ← zpow_natCast, ← zpow_sub₀ (by norm_num)]
    congr 1
    omega
  rw [hten]
  simp only [Nat.pow_eq]
  push_cast
  field_simp

/-- A decimal reads back that is at most half a unit away, where the unit is the seventeenth digit
    of the double. -/
theorem readsBack_of_close {k : ℕ} {place : ℤ} {q : ℚ} (hx : x.isNaN = false)
    (hq : q * 10 ^ place = x.magnitude) (hunit : (10 : ℚ) ^ place * 10 ^ 16 ≤ x.magnitude)
    (hclose : |(k : ℚ) - q| ≤ 1 / 2) : x.readsBack ⟨k, place⟩ = true := by
  have hten : (0 : ℚ) < 10 ^ place := by positivity
  have hhalf := mul_le_mul_of_nonneg_right hclose hten.le
  rw [readsBack_iff]
  refine isNearest_of_close hx ?_
  calc 2 ^ 54 * |(k : ℚ) * 10 ^ place - x.magnitude|
      = 2 ^ 54 * (|(k : ℚ) - q| * 10 ^ place) := by
        rw [← hq, ← sub_mul, abs_mul, abs_of_pos hten]
    _ ≤ 2 ^ 53 * 10 ^ place := by linarith
    _ < 10 ^ place * 10 ^ 16 := by rw [mul_comm]; gcongr; norm_num
    _ ≤ x.magnitude := hunit

/-- **Seventeen digits always read back.** -/
theorem exists_neighbour (tieUp : Bool) (hx : x.isNaN = false) (hrank : x.rank ≠ 0) :
    ∃ d, x.neighbour? tieUp 17 = some d := by
  have hd := denominator_pos x
  have hlead := pow_leadingDecimal_le (numerator_pos hrank) hd
  rw [numerator_div_denominator] at hlead
  unfold neighbour?
  dsimp only
  generalize hplace : leadingDecimal x.numerator x.denominator - ((17 : ℕ) : ℤ) + 1 = place
  have hunit : (10 : ℚ) ^ place * 10 ^ 16 ≤ x.magnitude := by
    rw [← zpow_natCast, ← zpow_add₀ (by norm_num)]
    exact (zpow_le_zpow_right₀ (by norm_num) (by push_cast; omega)).trans hlead
  have hstep : 0 < x.denominator * Nat.pow 10 place.toNat :=
    Nat.mul_pos hd (Nat.pow_pos (by norm_num))
  have hquot := scaled_div_scaled x.numerator x.denominator place
  rw [numerator_div_denominator] at hquot
  generalize x.numerator * Nat.pow 10 (-place).toNat = top at hquot ⊢
  generalize x.denominator * Nat.pow 10 place.toNat = step at hquot hstep ⊢
  obtain ⟨k, hk, hclose⟩ := exists_close_neighbour top hstep
  have hback := readsBack_of_close hx hquot hunit hclose
  rcases hk with rfl | rfl <;> rw [hback]
  · cases x.readsBack ⟨top / step + 1, place⟩
    · exact ⟨_, rfl⟩
    · dsimp only
      repeat' split
      all_goals exact ⟨_, rfl⟩
  · cases x.readsBack ⟨top / step, place⟩
    · exact ⟨_, rfl⟩
    · dsimp only
      repeat' split
      all_goals exact ⟨_, rfl⟩

/-- **The shortest decimal is rounded to the double.** -/
theorem isNearest_shortest (tieUp : Bool) (hx : x.isNaN = false) (hrank : x.rank ≠ 0) :
    IsNearest (x.shortest tieUp).value x := by
  obtain ⟨d, hd⟩ := exists_neighbour tieUp hx hrank
  unfold shortest
  dsimp only
  rw [Decimal.value_stripZeros]
  cases hfound : (List.range 17).findSome? fun i => x.neighbour? tieUp (i + 1) with
  | none =>
    rw [List.findSome?_eq_none_iff] at hfound
    have := hfound 16 (List.mem_range.2 (by norm_num))
    rw [hd] at this
    cases this
  | some found =>
    obtain ⟨i, -, hi⟩ := List.exists_of_findSome?_eq_some hfound
    exact isNearest_neighbour hi

theorem digits_shortest_ne_zero (tieUp : Bool) (hx : x.isNaN = false) (hrank : x.rank ≠ 0) :
    (x.shortest tieUp).digits ≠ 0 := by
  intro hzero
  have hnearest := isNearest_shortest tieUp hx hrank
  rw [Decimal.value, hzero, Nat.cast_zero, zero_mul] at hnearest
  exact hrank (hnearest.rank_eq (isNearest_zero false le_rfl (by positivity)))

/-! ## Numbers without an exponent -/

/-- Zero, or a magnitude from a ten-thousandth up to ten quadrillions. -/
def IsModerate (x : Double) : Prop :=
  x.magnitude = 0 ∨ (10 : ℚ) ^ (-4 : ℤ) ≤ x.magnitude ∧ x.magnitude < 10 ^ (16 : ℤ)

instance (x : Double) : Decidable x.IsModerate := inferInstanceAs (Decidable (_ ∨ _))

/-- The shortest decimal depends on the magnitude only. -/
theorem shortest_eq_of_rank_eq {tieUp : Bool} (hrank : x.rank = y.rank) :
    x.shortest tieUp = y.shortest tieUp := by
  obtain ⟨_, rank, _⟩ := x
  obtain ⟨_, _, _⟩ := y
  cases hrank
  rfl

/-- A power of ten that is its own shortest decimal, and not above its double, separates the
    doubles as it separates their shortest decimals. -/
theorem pow_le_shortest_iff {tieUp : Bool} {k : ℤ} (hx : x.isNaN = false) (hrank : x.rank ≠ 0)
    (hpower : ((ofDecimal false 1 k).shortest tieUp).value = 10 ^ k)
    (habove : (10 : ℚ) ^ k ≤ (ofDecimal false 1 k).magnitude) :
    (10 : ℚ) ^ k ≤ (x.shortest tieUp).value ↔ (10 : ℚ) ^ k ≤ x.magnitude := by
  have hk := isNearest_ofDecimal false 1 k
  rw [Nat.cast_one, one_mul] at hk
  have hshortest := isNearest_shortest tieUp hx hrank
  constructor
  · intro hle
    have hle := magnitudeAt_strictMono.monotone (hk.rank_le hshortest hle)
    rw [← magnitude_eq, ← magnitude_eq] at hle
    exact habove.trans hle
  · intro hle
    by_contra hlt
    have hrank := le_antisymm (hk.rank_le (isNearest_magnitude hx) hle)
      (hshortest.rank_le hk (not_le.1 hlt).le)
    rw [← shortest_eq_of_rank_eq hrank, hpower] at hlt
    exact hlt le_rfl

/-- **The doubles that are written without an exponent.** -/
theorem isPositional_iff (hx : x.isNaN = false) (hrank : x.rank ≠ 0) :
    Layout.pointed.isPositional (x.shortest Layout.pointed.tieUp).lead = true ↔ x.IsModerate := by
  have hdigits := digits_shortest_ne_zero Layout.pointed.tieUp hx hrank
  have hleast : (ofDecimal false 1 (-4)).shortest Layout.pointed.tieUp = ⟨1, -4⟩ := by
    decide +kernel
  have hbound : (ofDecimal false 1 16).shortest Layout.pointed.tieUp = ⟨1, 16⟩ := by
    decide +kernel
  have hlow := pow_le_shortest_iff hx hrank (by rw [hleast, Decimal.value]; simp)
    (show (10 : ℚ) ^ (-4 : ℤ) ≤ (ofDecimal false 1 (-4)).magnitude by decide +kernel)
  have hhigh := pow_le_shortest_iff hx hrank (by rw [hbound, Decimal.value]; simp)
    (show (10 : ℚ) ^ (16 : ℤ) ≤ (ofDecimal false 1 16).magnitude by decide +kernel)
  rw [Decimal.pow_le_value_iff hdigits] at hlow hhigh
  have hne : x.magnitude ≠ 0 := (magnitude_pos hrank).ne'
  rw [IsModerate, or_iff_right hne, ← hlow, ← not_le, ← hhigh, not_le]
  simp only [Layout.isPositional, Layout.pointed, Option.all_some, Bool.and_eq_true]
  exact and_congr decide_eq_true_iff decide_eq_true_iff

end Double

end CourseSite
