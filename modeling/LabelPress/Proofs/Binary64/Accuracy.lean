import LabelPress.Proofs.Binary64.Order

/-!
# How exact operations are

Rounding moves a number by at most half a unit of the last of its 53 digits, unless the number is
too small for as many digits. Where several operations follow each other, the errors add up: each
operation adds at most one unit, relative to the exact result.
-/

namespace LabelPress

theorem abs_roundHalfEven_sub_le (q : Rat) : |roundHalfEven q - q| ≤ 1 / 2 := by
  have hlow : (q.floor : Rat) ≤ q := Rat.floor_le q
  have hhigh : q < q.floor + 1 := by exact_mod_cast Rat.lt_floor_add_one q
  rw [abs_le]
  unfold roundHalfEven
  dsimp only
  split_ifs <;> push_cast <;> constructor <;> linarith

namespace Binary64
variable {p q : Rat} {k : Nat}

theorem abs_gridded_sub_le (q : Rat) : |gridded q - q| ≤ 2 ^ gridExponent q / 2 := by
  have hpos : (0 : Rat) < 2 ^ gridExponent q := by positivity
  have hunits : gridded q - q =
      (roundHalfEven (q / 2 ^ gridExponent q) - q / 2 ^ gridExponent q) * 2 ^ gridExponent q := by
    rw [gridded, sub_mul, div_mul_cancel₀ q hpos.ne']
  rw [hunits, abs_mul, abs_of_pos hpos]
  have hmul := mul_le_mul_of_nonneg_right
    (abs_roundHalfEven_sub_le (q / 2 ^ gridExponent q)) hpos.le
  linarith

/-- A number with a first digit of its own is off by at most half a unit of its last digit. -/
theorem abs_rounded_sub_le (h : (2 : Rat) ^ (-1022 : Int) ≤ q) :
    |rounded q - q| ≤ q / 2 ^ 53 := by
  have hpos : 0 < q := lt_of_lt_of_le (by positivity) h
  obtain ⟨-, -, hlow⟩ := gridExponent_spec hpos
  have hunit : (2 : Rat) ^ gridExponent q / 2 ≤ q / 2 ^ 53 := by
    rcases hlow with hfinest | hnormal
    · have hsplit : (2 : Rat) ^ (-1022 : Int) = 2 ^ (-1074 : Int) * 2 ^ 52 := by
        rw [← zpow_natCast, ← zpow_add₀ two_ne_zero]
        rfl
      rw [hsplit] at h
      rw [hfinest]
      linarith
    · have hgrid : (0 : Rat) < 2 ^ gridExponent q := by positivity
      have hmul := (le_div_iff₀ hgrid).mp hnormal
      norm_num [leastMantissa] at hmul
      linarith
  rw [rounded, if_neg hpos.not_gt]
  exact (abs_gridded_sub_le q).trans hunit

def IsOrdinary (p : Rat) : Prop := p = 0 ∨ 1 / 2 ^ 100 ≤ p ∧ p ≤ 2 ^ 100

/-- The number stands for `p` with an error of at most `k` units of the last digit. -/
structure Approximates (k : Nat) (p : Rat) (x : Binary64) : Prop where
  finite : x.isFinite = true
  error : |x.toRat - p| ≤ k * p / 2 ^ 52

/-- What is near to an ordinary number other than zero has all its digits. -/
theorem normal_of_near (hlow : 1 / 2 ^ 100 ≤ p) (hhigh : p ≤ 2 ^ 100) (h : |q - p| ≤ p / 4) :
    (2 : Rat) ^ (-1022 : Int) ≤ q ∧ |q| < overflow := by
  have hpos : 0 < p := lt_of_lt_of_le (by positivity) hlow
  have hnear := abs_le.mp h
  have hsmall : (2 : Rat) ^ (-1022 : Int) ≤ 1 / 2 ^ 101 := by
    rw [one_div, ← zpow_natCast, ← zpow_neg]
    exact zpow_le_zpow_right₀ one_le_two (by decide)
  have hlarge : (2 : Rat) ^ 101 < overflow := by decide +kernel
  rw [abs_of_nonneg (by linarith)]
  constructor <;> linarith

/-- Rounding adds an error of one unit. -/
theorem approximates_round {zeroNegative : Bool} (hp : IsOrdinary p) (hk : k ≤ 2 ^ 50)
    (h : |q - p| ≤ k * p / 2 ^ 52) : Approximates (k + 1) p (round zeroNegative q) := by
  rcases hp with rfl | ⟨hlow, hhigh⟩
  · rw [mul_zero, zero_div, sub_zero, abs_nonpos_iff] at h
    have hfits : |q| < overflow := by
      rw [h, abs_zero]
      exact overflow_pos
    refine ⟨(toRat_round_eq hfits).1, ?_⟩
    have hvalue : (round zeroNegative q).toRat = rounded q := (toRat_round_eq hfits).2
    rw [hvalue, h, rounded_zero]
    norm_num
  · have hpos : 0 < p := lt_of_lt_of_le (by positivity) hlow
    have hquarter : k * p / 2 ^ 52 ≤ p / 4 := by
      have hk' : (k : Rat) ≤ 2 ^ 50 := by exact_mod_cast hk
      have hmul := mul_le_mul_of_nonneg_right hk' hpos.le
      linarith
    have hnear : |q - p| ≤ p / 4 := h.trans hquarter
    obtain ⟨hnormal, hfits⟩ := normal_of_near hlow hhigh hnear
    have hdouble : q ≤ 2 * p := by linarith [abs_le.mp hnear]
    refine ⟨(toRat_round_eq hfits).1, ?_⟩
    have hvalue : (round zeroNegative q).toRat = rounded q := (toRat_round_eq hfits).2
    rw [hvalue]
    calc |rounded q - p| ≤ |rounded q - q| + |q - p| := abs_sub_le _ _ _
      _ ≤ q / 2 ^ 53 + k * p / 2 ^ 52 := add_le_add (abs_rounded_sub_le hnormal) h
      _ ≤ p / 2 ^ 52 + k * p / 2 ^ 52 := by linarith
      _ = (k + 1 : Nat) * p / 2 ^ 52 := by
        push_cast
        ring

section Operations
variable {x y : Binary64} (hx : Approximates k p x) (hk : k ≤ 2 ^ 50) (hy : y.isFinite = true)
  (hpos : 0 < y.toRat)
include hx hk hy hpos

theorem Approximates.mul (hp : IsOrdinary (p * y.toRat)) :
    Approximates (k + 1) (p * y.toRat) (x.mul y) := by
  have herror : |x.toRat * y.toRat - p * y.toRat| ≤ k * (p * y.toRat) / 2 ^ 52 := by
    rw [← sub_mul, abs_mul, abs_of_pos hpos]
    calc |x.toRat - p| * y.toRat ≤ k * p / 2 ^ 52 * y.toRat :=
          mul_le_mul_of_nonneg_right hx.error hpos.le
      _ = k * (p * y.toRat) / 2 ^ 52 := by ring
  obtain ⟨s, hs⟩ := exists_mul_eq_round hx.finite hy
  exact hs ▸ approximates_round hp hk herror

theorem Approximates.div (hp : IsOrdinary (p / y.toRat)) :
    Approximates (k + 1) (p / y.toRat) (x.div y) := by
  have herror : |x.toRat / y.toRat - p / y.toRat| ≤ k * (p / y.toRat) / 2 ^ 52 := by
    rw [← sub_div, abs_div, abs_of_pos hpos]
    calc |x.toRat - p| / y.toRat ≤ k * p / 2 ^ 52 / y.toRat :=
          div_le_div_of_nonneg_right hx.error hpos.le
      _ = k * (p / y.toRat) / 2 ^ 52 := by ring
  obtain ⟨s, hs⟩ := exists_div_eq_round hx.finite hy
  exact hs ▸ approximates_round hp hk herror

end Operations

end Binary64
end LabelPress
