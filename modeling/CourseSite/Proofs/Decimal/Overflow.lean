/-
  Which magnitudes are rounded to infinity.

  * `overflowBound`: the middle between the largest finite double and the power of two behind it.
  * `IsNearest.isFinite_iff`: the nearest double of a magnitude is finite just if the magnitude is
    below this bound.
-/
import CourseSite.Proofs.Decimal.Nearest

namespace CourseSite.Double

/-! ## The largest finite double -/

/-- The middle between the largest finite double and the power of two behind it. -/
def overflowBound : ℚ := 2 ^ 1024 - 2 ^ 970

/-- The largest finite double. -/
def largest : Double := ofRank false (infinityRank - 1)

theorem rank_largest : largest.rank = infinityRank - 1 := Nat.min_eq_left (Nat.sub_le _ _)

theorem isNaN_largest : largest.isNaN = false :=
  isNaN_eq_false_iff.2 (rank_largest ▸ Nat.sub_le _ _)

theorem isFinite_iff {x : Double} : x.isFinite = true ↔ x.rank < infinityRank := decide_eq_true_iff

theorem magnitude_le_largest {x : Double} (h : x.isFinite = true) :
    x.magnitude ≤ largest.magnitude := by
  rw [magnitude_eq, magnitude_eq, rank_largest]
  exact magnitudeAt_strictMono.monotone (Nat.le_sub_one_of_lt (isFinite_iff.1 h))

/-- The three magnitudes around the bound lie half of the last place apart. -/
theorem exists_half_place : ∃ half : ℚ, 0 < half ∧
    largest.magnitude = overflowBound - half ∧
    (infinity false).magnitude = overflowBound + half := by
  have hpow : (2 : ℚ) ^ 1024 = 2 ^ 54 * 2 ^ 970 := by rw [← pow_add]
  have hrank : infinityRank - 1 = 2045 * leadingBit + (2 * leadingBit - 1) := by decide
  have hsignificand : ((2 * leadingBit - 1 : ℕ) : ℚ) = 2 ^ 53 - 1 := by norm_num [leadingBit]
  have hplace : (2 : ℚ) ^ ((2045 : ℕ) - 1074 : ℤ) = 2 * 2 ^ 970 := by
    rw [← pow_succ', ← zpow_natCast]
    norm_num
  have hinfinity : magnitudeAt infinityRank = 2 ^ 1024 := by exact_mod_cast magnitudeAt_infinityRank
  -- the power has a name, so that it is not evaluated
  obtain ⟨half, hhalf⟩ : ∃ half : ℚ, 2 ^ 970 = half := ⟨_, rfl⟩
  have hpos : 0 < half := by rw [← hhalf]; positivity
  rw [hhalf] at hpow hplace
  refine ⟨half, hpos, ?_, ?_⟩
  · rw [magnitude_eq, rank_largest, hrank, magnitudeAt_place (Nat.sub_le _ _) (.inr (by decide)),
      hsignificand, hplace, overflowBound, hpow, hhalf]
    ring
  · rw [magnitude_eq, overflowBound, hhalf, sub_add_cancel]
    exact hinfinity

/-! ## The nearest double -/

namespace IsNearest

variable {q : ℚ} {x : Double}

/-- The bound itself is not rounded to the largest finite double, as its significand is odd. -/
theorem lt_overflowBound (h : IsNearest q x) (hfinite : x.isFinite = true) : q < overflowBound := by
  obtain ⟨half, hhalf, hlargest, hinfinity⟩ := exists_half_place
  by_contra hge
  have hle := hlargest ▸ magnitude_le_largest hfinite
  have hnear := h.nearest (infinity false) rfl
  rw [hinfinity, abs_of_nonneg (by linarith)] at hnear
  have habove : q - (overflowBound + half) ≤ 0 := by
    by_contra hbeyond
    rw [abs_of_nonneg (by linarith)] at hnear
    linarith
  rw [abs_of_nonpos habove] at hnear
  -- so the middle is hit, and the double is the largest finite one
  have hmiddle : x.magnitude = overflowBound - half := by linarith
  have hrank : x.rank = infinityRank - 1 := by
    rw [← hlargest, magnitude_eq, magnitude_eq, rank_largest] at hmiddle
    exact magnitudeAt_strictMono.injective hmiddle
  have htie : |q - (infinity false).magnitude| = |q - x.magnitude| := by
    rw [hinfinity, hmiddle, abs_of_nonpos habove, abs_of_nonneg (by linarith)]
    linarith
  have heven := h.even (infinity false) rfl (isFinite_iff.1 hfinite).ne' htie
  rw [significand_mod_two, hrank] at heven
  exact absurd heven (by decide)

theorem overflowBound_le (h : IsNearest q x) (hinfinite : x.isFinite = false) :
    overflowBound ≤ q := by
  obtain ⟨half, hhalf, hlargest, hinfinity⟩ := exists_half_place
  have hrank : x.rank = infinityRank := by
    refine le_antisymm (isNaN_eq_false_iff.1 h.number) (not_lt.1 fun hlt => ?_)
    rw [isFinite_iff.2 hlt] at hinfinite
    cases hinfinite
  have hvalue : x.magnitude = overflowBound + half := by
    rw [← hinfinity, magnitude_eq, magnitude_eq, hrank]
    rfl
  have hnear := h.nearest largest isNaN_largest
  rw [hvalue, hlargest] at hnear
  by_contra hlt
  rw [abs_of_nonpos (by linarith)] at hnear
  rcases abs_cases (q - (overflowBound - half)) with ⟨habs, -⟩ | ⟨habs, -⟩ <;> linarith

/-- **Rounding stays finite just below the bound.** -/
theorem isFinite_iff (h : IsNearest q x) : x.isFinite = true ↔ q < overflowBound := by
  refine ⟨h.lt_overflowBound, fun hlt => ?_⟩
  by_contra hinfinite
  exact absurd (h.overflowBound_le (Bool.eq_false_iff.2 hinfinite)) (not_le.2 hlt)

/-- From the bound on, a magnitude is rounded to infinity. -/
theorem eq_infinity (h : IsNearest q x) (hq : overflowBound ≤ q) : x = infinity x.negative := by
  have hinfinite : ¬ x.rank < infinityRank := fun hlt =>
    absurd (h.lt_overflowBound (Double.isFinite_iff.2 hlt)) (not_lt.2 hq)
  have hrank : x.rank = infinityRank := le_antisymm (isNaN_eq_false_iff.1 h.number) (not_lt.1 hinfinite)
  obtain ⟨negative, rank, hlt⟩ := x
  cases hrank
  rfl

end IsNearest

end CourseSite.Double
