/-
  Rounding to the nearest double.

  * `Double.magnitude`: the magnitude of a double as a rational number; infinity counts
    as the power of two behind the largest finite magnitude.
  * `IsNearest`: no double is nearer, and of two that are equally near it is the one with
    the even significand.
  * `isNearest_ofDecimal`: a decimal is rounded to the nearest double.
  * `IsNearest.unique`: there is only one for each sign.

  The magnitude grows with the rank, so that comparing doubles is comparing ranks.
-/
import Mathlib.Algebra.Order.Field.Power
import Mathlib.Order.Monotone.Basic
import Mathlib.Tactic.FieldSimp
import Mathlib.Tactic.GCongr
import Mathlib.Tactic.Linarith
import Mathlib.Tactic.NormNum
import Mathlib.Tactic.Positivity
import Mathlib.Tactic.Ring
import CourseSite.Decimal.Double

namespace CourseSite.Double

/-! ## Magnitudes -/

/-- The magnitude of a number that is no NaN. -/
def magnitude (x : Double) : ℚ := x.significand * 2 ^ x.exponent

/-- The double nearest to the magnitude `q`; a tie goes to the even significand. -/
structure IsNearest (q : ℚ) (x : Double) : Prop where
  number : x.isNaN = false
  nearest : ∀ y : Double, y.isNaN = false → |q - x.magnitude| ≤ |q - y.magnitude|
  even : ∀ y : Double, y.isNaN = false → y.rank ≠ x.rank →
    |q - y.magnitude| = |q - x.magnitude| → x.significand % 2 = 0

/-- The magnitude of a rank. -/
def magnitudeAt (rank : ℕ) : ℚ :=
  if rank < leadingBit then rank * 2 ^ (-1074 : ℤ)
  else (leadingBit + rank % leadingBit : ℕ) * 2 ^ ((rank / leadingBit : ℕ) - 1075 : ℤ)

theorem magnitude_eq (x : Double) : x.magnitude = magnitudeAt x.rank := by
  unfold magnitude magnitudeAt significand exponent
  split <;> rfl

theorem significand_mod_two (x : Double) : x.significand % 2 = x.rank % 2 := by
  unfold significand leadingBit
  split <;> omega

theorem isNaN_eq_false_iff {x : Double} : x.isNaN = false ↔ x.rank ≤ infinityRank := by
  simp [isNaN]

/-- The magnitude of the rank with `m` units in the place `2 ^ (p - 1074)`. -/
theorem magnitudeAt_place {p m : ℕ} (hm : m ≤ 2 * leadingBit) (hp : p = 0 ∨ leadingBit ≤ m) :
    magnitudeAt (p * leadingBit + m) = m * 2 ^ (p - 1074 : ℤ) := by
  have hpos : 0 < leadingBit := by decide
  unfold magnitudeAt
  rcases Nat.lt_or_ge m leadingBit with hlt | hge
  · obtain rfl : p = 0 := hp.resolve_right (by omega)
    rw [Nat.zero_mul, Nat.zero_add, if_pos hlt]
    rfl
  · rw [if_neg (by omega)]
    rcases Nat.lt_or_ge m (2 * leadingBit) with hlt | hge'
    · have hsum : p * leadingBit + m = (p + 1) * leadingBit + (m - leadingBit) := by
        rw [Nat.succ_mul]; omega
      rw [hsum, Nat.mul_comm, Nat.mul_add_mod, Nat.mul_add_div hpos,
        Nat.mod_eq_of_lt (by omega), Nat.div_eq_of_lt (by omega), Nat.add_sub_cancel' hge]
      congr 2
      push_cast
      ring
    · obtain rfl : m = 2 * leadingBit := by omega
      rw [← Nat.add_mul, Nat.mul_mod_left, Nat.mul_div_cancel _ hpos, Nat.add_zero]
      push_cast
      rw [show (p + 2 - 1075 : ℤ) = (p - 1074) + 1 by ring, zpow_add_one₀ (by norm_num)]
      ring

/-- Every rank counts the units of some place. -/
theorem exists_place (rank : ℕ) :
    ∃ p m, rank = p * leadingBit + m ∧ m < 2 * leadingBit ∧ (p = 0 ∨ leadingBit ≤ m) := by
  have hdiv := Nat.div_add_mod rank leadingBit
  have hmod := Nat.mod_lt rank (show 0 < leadingBit by decide)
  rcases Nat.eq_zero_or_pos (rank / leadingBit) with hzero | hpos
  · rw [hzero] at hdiv
    exact ⟨0, rank, by omega, by omega, Or.inl rfl⟩
  · refine ⟨rank / leadingBit - 1, leadingBit + rank % leadingBit, ?_, by omega, Or.inr (by omega)⟩
    have := Nat.sub_mul (rank / leadingBit) 1 leadingBit
    have := Nat.mul_le_mul_right leadingBit hpos
    rw [Nat.mul_comm] at hdiv
    omega

theorem magnitudeAt_strictMono : StrictMono magnitudeAt := by
  refine strictMono_nat_of_lt_succ fun rank => ?_
  obtain ⟨p, m, rfl, hm, hp⟩ := exists_place rank
  rw [Nat.add_assoc, magnitudeAt_place (Nat.le_of_lt hm) hp, magnitudeAt_place hm (by omega)]
  gcongr
  exact Nat.lt_succ_self m

/-! ## One nearest double -/

/-- There is only one nearest double for each sign. -/
theorem IsNearest.unique {q : ℚ} {x y : Double} (hx : IsNearest q x) (hy : IsNearest q y)
    (hsign : x.negative = y.negative) : x = y := by
  have hrank : x.rank = y.rank := by
    by_contra hne
    have heq := le_antisymm (hx.nearest y hy.number) (hy.nearest x hx.number)
    -- Both are even, so that there is a double in between.
    have hxe := (significand_mod_two x).symm.trans (hx.even y hy.number (Ne.symm hne) heq.symm)
    have hye := (significand_mod_two y).symm.trans (hy.even x hx.number hne heq)
    wlog hlt : x.rank < y.rank generalizing x y
    · exact this hy hx hsign.symm (Ne.symm hne) heq.symm hye hxe (by omega)
    let between : Double := ⟨false, x.rank + 1, by have := y.rank_lt; omega⟩
    have hnumber : between.isNaN = false :=
      isNaN_eq_false_iff.2 (by have := isNaN_eq_false_iff.1 hy.number; simp only [between]; omega)
    have hnear := hx.nearest between hnumber
    have hnear' := hy.nearest between hnumber
    have h₁ : x.magnitude < between.magnitude := by
      rw [magnitude_eq, magnitude_eq]; exact magnitudeAt_strictMono (Nat.lt_succ_self _)
    have h₂ : between.magnitude < y.magnitude := by
      rw [magnitude_eq, magnitude_eq]
      exact magnitudeAt_strictMono (show x.rank + 1 < y.rank by omega)
    rcases abs_cases (q - x.magnitude) with ⟨h, _⟩ | ⟨h, _⟩ <;>
      rcases abs_cases (q - y.magnitude) with ⟨h', _⟩ | ⟨h', _⟩ <;>
      rcases abs_cases (q - between.magnitude) with ⟨h'', _⟩ | ⟨h'', _⟩ <;> linarith
  cases x; cases y
  cases hsign; cases hrank
  rfl

/-! ## Rounding a quotient -/

/-- The rounded quotient is nearest to the exact one, and even in a tie. -/
theorem roundHalfEven_nearest (n : ℕ) {d : ℕ} (hd : 0 < d) (j : ℕ) :
    |(n / d : ℚ) - roundHalfEven n d| ≤ |(n / d : ℚ) - j| ∧
      (j ≠ roundHalfEven n d → |(n / d : ℚ) - j| = |(n / d : ℚ) - roundHalfEven n d| →
        roundHalfEven n d % 2 = 0) := by
  have hdq : (0 : ℚ) < d := by exact_mod_cast hd
  -- Multiplied by the denominator, both distances are whole.
  have scaled (k : ℕ) : |(n / d : ℚ) - k| = ((n : ℤ) - (d * k : ℕ)).natAbs / d := by
    rw [eq_div_iff hdq.ne', ← abs_of_pos hdq, ← abs_mul, abs_of_pos hdq, sub_mul,
      div_mul_cancel₀ _ hdq.ne', Nat.cast_natAbs]
    push_cast
    rw [mul_comm]
  rw [scaled, scaled, div_le_div_iff_of_pos_right hdq, div_left_inj' hdq.ne', Nat.cast_le,
    Nat.cast_inj]
  have hn := Nat.div_add_mod n d
  have hmod := Nat.mod_lt n hd
  have hnext : d * (n / d + 1) = d * (n / d) + d := Nat.mul_succ d (n / d)
  have hround : d * roundHalfEven n d = d * (n / d) ∧ 2 * (n % d) ≤ d ∧
        roundHalfEven n d = n / d ∧ (2 * (n % d) = d → n / d % 2 = 0) ∨
      d * roundHalfEven n d = d * (n / d) + d ∧ d ≤ 2 * (n % d) ∧
        roundHalfEven n d = n / d + 1 ∧ (2 * (n % d) = d → n / d % 2 = 1) := by
    unfold roundHalfEven
    split
    · exact Or.inl ⟨rfl, by omega, rfl, by omega⟩
    · split
      · exact Or.inr ⟨hnext, by omega, rfl, by omega⟩
      · rcases Nat.mod_two_eq_zero_or_one (n / d) with h | h <;> rw [h]
        · exact Or.inl ⟨rfl, by omega, rfl, fun _ => rfl⟩
        · exact Or.inr ⟨hnext, by omega, rfl, fun _ => rfl⟩
  rcases Nat.lt_or_ge (n / d) j with hj | hj
  · have hle : d * (n / d + 1) ≤ d * j := Nat.mul_le_mul_left d hj
    have hne : j ≠ n / d + 1 → d * (n / d + 1) + d ≤ d * j := by
      intro hne
      rw [← Nat.mul_succ]; exact Nat.mul_le_mul_left d (by omega)
    omega
  · have hle : d * j ≤ d * (n / d) := Nat.mul_le_mul_left d hj
    have hne : j ≠ n / d → d * j + d ≤ d * (n / d) := by
      intro hne
      rw [← Nat.mul_succ]; exact Nat.mul_le_mul_left d (by omega)
    omega

theorem shiftLeft_div_shiftLeft (n d : ℕ) (place : ℤ) :
    ((n <<< (-place).toNat : ℕ) / (d <<< place.toNat : ℕ) : ℚ) = n / d / 2 ^ place := by
  have htwo : (2 : ℚ) ^ place = 2 ^ place.toNat / 2 ^ (-place).toNat := by
    rw [← zpow_natCast, ← zpow_natCast, ← zpow_sub₀ (by norm_num)]
    congr 1
    omega
  rw [htwo, Nat.shiftLeft_eq, Nat.shiftLeft_eq]
  push_cast
  field_simp

/-- The leading exponent is the greatest one whose power is at most the quotient. -/
theorem leadingExponent_spec {n d : ℕ} (hn : 0 < n) (hd : 0 < d) :
    (2 : ℚ) ^ leadingExponent n d ≤ n / d ∧ (n / d : ℚ) < 2 ^ (leadingExponent n d + 1) := by
  have hdq : (0 : ℚ) < d := by exact_mod_cast hd
  have hlow : (2 : ℚ) ^ n.log2 ≤ n := by exact_mod_cast Nat.log2_self_le hn.ne'
  have hhigh : (n : ℚ) < 2 ^ (n.log2 + 1) := by exact_mod_cast Nat.lt_log2_self
  have dlow : (2 : ℚ) ^ d.log2 ≤ d := by exact_mod_cast Nat.log2_self_le hd.ne'
  have dhigh : (d : ℚ) < 2 ^ (d.log2 + 1) := by exact_mod_cast Nat.lt_log2_self
  have le_iff (k : ℤ) : d <<< k.toNat ≤ n <<< (-k).toNat ↔ (2 : ℚ) ^ k ≤ n / d := by
    have hpos : (0 : ℚ) < (d <<< k.toNat : ℕ) := by
      rw [Nat.shiftLeft_eq]; exact_mod_cast Nat.mul_pos hd (Nat.two_pow_pos _)
    rw [← one_le_div (by positivity : (0 : ℚ) < 2 ^ k), ← shiftLeft_div_shiftLeft,
      one_le_div hpos]
    exact_mod_cast Iff.rfl
  unfold leadingExponent
  set k : ℤ := n.log2 - d.log2 with hk
  have below : (2 : ℚ) ^ (k - 1) ≤ n / d := by
    rw [le_div_iff₀ hdq]
    calc (2 : ℚ) ^ (k - 1) * d ≤ 2 ^ (k - 1) * 2 ^ (d.log2 + 1) := by gcongr
      _ = 2 ^ n.log2 := by
        rw [← zpow_natCast, ← zpow_natCast, ← zpow_add₀ (by norm_num)]
        congr 1
        push_cast
        omega
      _ ≤ n := hlow
  have above : (n / d : ℚ) < 2 ^ (k + 1) := by
    rw [div_lt_iff₀ hdq]
    calc (n : ℚ) < 2 ^ (n.log2 + 1) := hhigh
      _ = 2 ^ (k + 1) * 2 ^ d.log2 := by
        rw [← zpow_natCast, ← zpow_natCast, ← zpow_add₀ (by norm_num)]
        congr 1
        push_cast
        omega
      _ ≤ 2 ^ (k + 1) * d := by gcongr
  dsimp only
  split
  · rename_i h
    exact ⟨(le_iff k).1 h, above⟩
  · rename_i h
    rw [le_iff, not_le] at h
    rw [Int.sub_add_cancel]
    exact ⟨below, h⟩

/-- Rounding stays within whole bounds. -/
theorem roundHalfEven_le {n d k : ℕ} (hd : 0 < d) (h : (n / d : ℚ) ≤ k) :
    roundHalfEven n d ≤ k := by
  by_contra hlt
  have hlt : (k : ℚ) < roundHalfEven n d := by exact_mod_cast not_le.1 hlt
  have := (roundHalfEven_nearest n hd k).1
  rw [abs_of_nonpos (by linarith), abs_of_nonpos (by linarith)] at this
  linarith

theorem le_roundHalfEven {n d k : ℕ} (hd : 0 < d) (h : (k : ℚ) ≤ n / d) :
    k ≤ roundHalfEven n d := by
  by_contra hlt
  have hlt : (roundHalfEven n d : ℚ) < k := by exact_mod_cast not_le.1 hlt
  have := (roundHalfEven_nearest n hd k).1
  rw [abs_of_nonneg (by linarith), abs_of_nonneg (by linarith)] at this
  linarith

/-- The nearest rank counts the rounded units of some place: at most twice the leading bit,
    and, unless it is the least place, no less than that bit. -/
theorem nearestRank_eq {n d : ℕ} (hn : 0 < n) (hd : 0 < d) :
    ∃ p num den : ℕ, 0 < den ∧ (num / den : ℚ) = n / d / 2 ^ (p - 1074 : ℤ) ∧
      nearestRank n d = p * leadingBit + roundHalfEven num den ∧
      (num / den : ℚ) ≤ (2 * leadingBit : ℕ) ∧ (p = 0 ∨ (leadingBit : ℚ) ≤ num / den) := by
  obtain ⟨hlow, hhigh⟩ := leadingExponent_spec hn hd
  unfold nearestRank
  generalize hplace : max (leadingExponent n d - 52) (-1074) = place
  obtain ⟨p, rfl⟩ : ∃ p : ℕ, place = p - 1074 := ⟨(place + 1074).toNat, by omega⟩
  have hratio := shiftLeft_div_shiftLeft n d (p - 1074)
  have hunit : (0 : ℚ) < 2 ^ (p - 1074 : ℤ) := by positivity
  have hbit : (leadingBit : ℚ) = 2 ^ (52 : ℤ) := by norm_num [leadingBit]
  dsimp only
  rw [show ((p : ℤ) - 1074 + 1074).toNat = p by omega]
  refine ⟨p, _, _, ?_, hratio, rfl, ?_, ?_⟩
  · rw [Nat.shiftLeft_eq]; exact Nat.mul_pos hd (Nat.two_pow_pos _)
  · rw [hratio, div_le_iff₀ hunit]
    push_cast
    rw [hbit, ← zpow_one_add₀ (by norm_num), ← zpow_add₀ (by norm_num)]
    exact hhigh.le.trans (zpow_le_zpow_right₀ (by norm_num) (by omega))
  · rcases Nat.eq_zero_or_pos p with hzero | hpos
    · exact Or.inl hzero
    · rw [hratio, le_div_iff₀ hunit, hbit, ← zpow_add₀ (by norm_num),
        show (52 : ℤ) + (p - 1074) = leadingExponent n d by omega]
      exact Or.inr hlow

/-- A double of a lower place is below all of those that reach the leading bit. -/
theorem magnitudeAt_lt {p p' k : ℕ} (hk : k < 2 * leadingBit) (hp' : p' = 0 ∨ leadingBit ≤ k)
    (hlt : p' < p) : magnitudeAt (p' * leadingBit + k) < leadingBit * 2 ^ (p - 1074 : ℤ) := by
  rw [magnitudeAt_place (Nat.le_of_lt hk) hp']
  have hk : (k : ℚ) < 2 * leadingBit := by exact_mod_cast hk
  calc (k : ℚ) * 2 ^ (p' - 1074 : ℤ) < 2 * leadingBit * 2 ^ (p' - 1074 : ℤ) := by gcongr
    _ = leadingBit * 2 ^ (p' - 1074 + 1 : ℤ) := by rw [zpow_add_one₀ (by norm_num)]; ring
    _ ≤ leadingBit * 2 ^ (p - 1074 : ℤ) := by
      gcongr
      · norm_num
      · omega

/-- A double of another place counts whole units of a lower one. -/
theorem exists_magnitudeAt_eq {p p' k : ℕ} (hk : k < 2 * leadingBit)
    (hp' : p' = 0 ∨ leadingBit ≤ k) (hle : p ≤ p') :
    ∃ j : ℕ, magnitudeAt (p' * leadingBit + k) = j * 2 ^ (p - 1074 : ℤ) := by
  refine ⟨k * 2 ^ (p' - p), ?_⟩
  rw [magnitudeAt_place (Nat.le_of_lt hk) hp']
  push_cast
  rw [mul_assoc, ← zpow_natCast, ← zpow_add₀ (by norm_num)]
  congr 2
  omega

/-- No rank is nearer than the nearest one, which is even in a tie. -/
theorem nearestRank_spec {n d : ℕ} (hn : 0 < n) (hd : 0 < d) (rank : ℕ) :
    |(n / d : ℚ) - magnitudeAt (nearestRank n d)| ≤ |(n / d : ℚ) - magnitudeAt rank| ∧
      (rank ≠ nearestRank n d →
        |(n / d : ℚ) - magnitudeAt rank| = |(n / d : ℚ) - magnitudeAt (nearestRank n d)| →
        nearestRank n d % 2 = 0) := by
  obtain ⟨p, num, den, hden, hratio, hrank, hhigh, hlow⟩ := nearestRank_eq hn hd
  have hunit : (0 : ℚ) < 2 ^ (p - 1074 : ℤ) := by positivity
  have hquot : (n / d : ℚ) = num / den * 2 ^ (p - 1074 : ℤ) := by
    rw [hratio, div_mul_cancel₀ _ hunit.ne']
  have scaled (j : ℕ) : |(n / d : ℚ) - j * 2 ^ (p - 1074 : ℤ)| =
      |(num / den : ℚ) - j| * 2 ^ (p - 1074 : ℤ) := by
    rw [hquot, ← sub_mul, abs_mul, abs_of_pos hunit]
  have hvalue : magnitudeAt (nearestRank n d) = roundHalfEven num den * 2 ^ (p - 1074 : ℤ) := by
    rw [hrank, magnitudeAt_place (roundHalfEven_le hden hhigh)
      (hlow.imp id (le_roundHalfEven hden))]
  have hparity : nearestRank n d % 2 = roundHalfEven num den % 2 := by
    rw [hrank, leadingBit]; omega
  rw [hvalue, hparity]
  obtain ⟨p', k, rfl, hk, hp'⟩ := exists_place rank
  rcases Nat.lt_or_ge p' p with hlt | hge
  · -- A double of a lower place is not as near as the power of two that is reached.
    have hbelow := magnitudeAt_lt hk hp' hlt
    have hreach : (leadingBit : ℚ) * 2 ^ (p - 1074 : ℤ) ≤ n / d := by
      rw [hquot]
      exact mul_le_mul_of_nonneg_right (hlow.resolve_left (by omega)) hunit.le
    have hcloser : |(n / d : ℚ) - roundHalfEven num den * 2 ^ (p - 1074 : ℤ)| <
        |(n / d : ℚ) - magnitudeAt (p' * leadingBit + k)| := by
      calc |(n / d : ℚ) - roundHalfEven num den * 2 ^ (p - 1074 : ℤ)|
          ≤ |(n / d : ℚ) - leadingBit * 2 ^ (p - 1074 : ℤ)| := by
            rw [scaled, scaled]
            exact mul_le_mul_of_nonneg_right (roundHalfEven_nearest num hden _).1 hunit.le
        _ < |(n / d : ℚ) - magnitudeAt (p' * leadingBit + k)| := by
            rw [abs_of_nonneg (by linarith), abs_of_nonneg (by linarith)]
            linarith
    exact ⟨hcloser.le, fun _ heq => absurd heq hcloser.ne'⟩
  · obtain ⟨j, hj⟩ := exists_magnitudeAt_eq hk hp' hge
    obtain ⟨hnear, heven⟩ := roundHalfEven_nearest num hden j
    rw [hj, scaled, scaled]
    refine ⟨mul_le_mul_of_nonneg_right hnear hunit.le, fun hne heq => heven ?_ ?_⟩
    · rintro rfl
      exact hne (magnitudeAt_strictMono.injective (hj.trans hvalue.symm))
    · exact mul_right_cancel₀ hunit.ne' heq

/-! ## The nearest double -/

/-- The magnitude that overflows. -/
theorem magnitudeAt_infinityRank : magnitudeAt infinityRank = 2 ^ (1024 : ℤ) := by
  have hplace := @magnitudeAt_place 2046 leadingBit (by omega) (Or.inr le_rfl)
  rw [show 2046 * leadingBit + leadingBit = infinityRank from rfl] at hplace
  rw [hplace, show (leadingBit : ℚ) = 2 ^ (52 : ℤ) by norm_num [leadingBit],
    ← zpow_add₀ (by norm_num)]
  norm_num

/-- What is below half of the least double is rounded to zero. -/
theorem isNearest_zero {q : ℚ} (negative : Bool) (h₀ : 0 ≤ q) (h : q < 2 ^ (-1075 : ℤ)) :
    IsNearest q (zero negative) := by
  have hzero : (zero negative).magnitude = 0 := by
    rw [magnitude_eq]; simp [zero, ofRank, magnitudeAt, leadingBit]
  have hone : magnitudeAt 1 = 2 * 2 ^ (-1075 : ℤ) := by
    rw [magnitudeAt, if_pos (by decide), ← zpow_one_add₀ (by norm_num)]
    norm_num
  have hcloser (y : Double) (hy : y.rank ≠ 0) :
      |q - (zero negative).magnitude| < |q - y.magnitude| := by
    have hle : magnitudeAt 1 ≤ y.magnitude := by
      rw [magnitude_eq]; exact magnitudeAt_strictMono.monotone (by omega)
    rw [hzero, sub_zero, abs_of_nonneg h₀, abs_of_nonpos (by linarith)]
    linarith
  refine ⟨rfl, fun y _ => ?_, fun y _ hy heq => absurd heq (hcloser y hy).ne'⟩
  by_cases hy : y.rank = 0
  · rw [magnitude_eq y, hy, magnitude_eq]; exact le_refl _
  · exact (hcloser y hy).le

/-- What reaches the power of two behind the largest finite magnitude overflows, and so does
    what is as near to it. -/
theorem isNearest_infinity {q : ℚ} (negative : Bool)
    (h : ∀ rank < infinityRank, |q - magnitudeAt infinityRank| ≤ |q - magnitudeAt rank|) :
    IsNearest q (infinity negative) := by
  have hvalue : (infinity negative).magnitude = magnitudeAt infinityRank := magnitude_eq _
  refine ⟨isNaN_eq_false_iff.2 le_rfl, fun y hy => ?_, fun _ _ _ _ =>
    (significand_mod_two _).trans (show infinityRank % 2 = 0 by decide)⟩
  rw [hvalue, magnitude_eq y]
  rcases Nat.lt_or_eq_of_le (isNaN_eq_false_iff.1 hy) with hlt | heq
  · exact h _ hlt
  · rw [heq]

/-- The nearest rank is the one of the nearest double, unless it lies beyond infinity. -/
theorem isNearest_ofRank {q : ℚ} {rank : ℕ} (negative : Bool)
    (h : ∀ other, |q - magnitudeAt rank| ≤ |q - magnitudeAt other| ∧
      (other ≠ rank → |q - magnitudeAt other| = |q - magnitudeAt rank| → rank % 2 = 0)) :
    IsNearest q (ofRank negative rank) := by
  by_cases hle : rank ≤ infinityRank
  · have hrank : (ofRank negative rank).rank = rank := Nat.min_eq_left hle
    have hvalue : (ofRank negative rank).magnitude = magnitudeAt rank := by
      rw [magnitude_eq, hrank]
    refine ⟨isNaN_eq_false_iff.2 (Nat.min_le_right _ _), fun y _ => ?_, fun y _ hne heq => ?_⟩
    · rw [hvalue, magnitude_eq y]; exact (h _).1
    · rw [hvalue, magnitude_eq y] at heq
      rw [hrank] at hne
      rw [significand_mod_two, hrank]
      exact (h _).2 hne heq
  · have hgt := not_le.1 hle
    have hinfinity : ofRank negative rank = infinity negative := by
      rw [infinity, ofRank, ofRank]; congr 1; omega
    have hgreater := magnitudeAt_strictMono hgt
    have hnear := (h infinityRank).1
    rw [hinfinity]
    refine isNearest_infinity negative fun other hlt => ?_
    have hless := magnitudeAt_strictMono hlt
    -- The quotient is beyond infinity, as it is nearer to a greater rank.
    have hbeyond : magnitudeAt infinityRank ≤ q := by
      by_contra hbelow
      rw [abs_of_nonpos (by linarith), abs_of_nonpos (by linarith)] at hnear
      linarith
    rw [abs_of_nonneg (by linarith), abs_of_nonneg (by linarith)]
    linarith

/-- The rounded quotient is the nearest double. -/
theorem isNearest_ofRatio (negative : Bool) (n : ℕ) {d : ℕ} (hd : 0 < d) :
    IsNearest (n / d) (ofRatio negative n d) := by
  unfold ofRatio
  split
  · rename_i hn
    rw [hn, Nat.cast_zero, zero_div]
    exact isNearest_zero negative le_rfl (by positivity)
  · rename_i hn
    exact isNearest_ofRank negative (nearestRank_spec (Nat.pos_of_ne_zero hn) hd)

/-- **The rounded decimal is the nearest double.** -/
theorem isNearest_ofDecimal (negative : Bool) (digits : ℕ) (exponent : ℤ) :
    IsNearest (digits * 10 ^ exponent) (ofDecimal negative digits exponent) := by
  unfold ofDecimal
  split
  · rename_i hzero
    rw [hzero, Nat.cast_zero, zero_mul]
    exact isNearest_zero negative le_rfl (by positivity)
  rename_i hdigits
  have hone : (1 : ℚ) ≤ digits := by exact_mod_cast Nat.pos_of_ne_zero hdigits
  split
  · -- The power alone overflows.
    rename_i hlarge
    have hreach : (2 : ℚ) ^ (1024 : ℤ) ≤ digits * 10 ^ exponent := by
      calc (2 : ℚ) ^ (1024 : ℤ) ≤ 2 ^ (3 * exponent) :=
            zpow_le_zpow_right₀ (by norm_num) (by omega)
        _ = (2 ^ (3 : ℤ)) ^ exponent := zpow_mul ..
        _ ≤ 10 ^ exponent := zpow_le_zpow_left₀ (by omega) (by norm_num) (by norm_num)
        _ ≤ digits * 10 ^ exponent := le_mul_of_one_le_left (by positivity) hone
    refine isNearest_infinity negative fun rank hlt => ?_
    have hless := magnitudeAt_strictMono hlt
    rw [magnitudeAt_infinityRank] at hless ⊢
    rw [abs_of_nonneg (by linarith), abs_of_nonneg (by linarith)]
    linarith
  split
  · -- Every power of ten is at most the same power of eight.
    rename_i hsmall
    refine isNearest_zero negative (by positivity) ?_
    have hdigits : (digits : ℚ) < 2 ^ (digits.log2 + 1 : ℤ) := by
      exact_mod_cast Nat.lt_log2_self
    have hpower : (10 : ℚ) ^ exponent ≤ 2 ^ (3 * exponent) := by
      obtain ⟨k, rfl⟩ : ∃ k : ℕ, exponent = -k := ⟨(-exponent).toNat, by omega⟩
      rw [zpow_mul, zpow_neg, zpow_neg, zpow_natCast, zpow_natCast]
      exact inv_anti₀ (by positivity) (pow_le_pow_left₀ (by norm_num) (by norm_num) k)
    calc (digits : ℚ) * 10 ^ exponent
        < 2 ^ (digits.log2 + 1 : ℤ) * 10 ^ exponent := by gcongr
      _ ≤ 2 ^ (digits.log2 + 1 : ℤ) * 2 ^ (3 * exponent) := by gcongr
      _ = 2 ^ (digits.log2 + 1 + 3 * exponent) := by rw [← zpow_add₀ (by norm_num)]
      _ ≤ 2 ^ (-1075 : ℤ) := zpow_le_zpow_right₀ (by norm_num) (by omega)
  · have hquot : (digits * 10 ^ exponent : ℚ) =
        (digits * 10 ^ exponent.toNat : ℕ) / (10 ^ (-exponent).toNat : ℕ) := by
      have hten : (10 : ℚ) ^ exponent = 10 ^ exponent.toNat / 10 ^ (-exponent).toNat := by
        rw [← zpow_natCast, ← zpow_natCast, ← zpow_sub₀ (by norm_num)]
        congr 1
        omega
      rw [hten]
      push_cast
      rw [mul_div_assoc]
    rw [hquot]
    exact isNearest_ofRatio negative _ (Nat.pow_pos (by decide))

@[simp]
theorem ofDecimal_negative (negative : Bool) (digits : ℕ) (exponent : ℤ) :
    (ofDecimal negative digits exponent).negative = negative := by
  unfold ofDecimal ofRatio
  repeat' split
  all_goals rfl

end CourseSite.Double
