import LabelPress.Proofs.Binary64.Accuracy
import LabelPress.Proofs.Geometry
import LabelPress.Proofs.NearestDot

/-!
# Lengths of whole dots

The length of a whole number of dots is a rounded quotient, for millimetres with a rounded product
after it, and the way back divides and multiplies by the same numbers. The exact results of the
steps lead back to the number of dots, and the errors add up to a few units in the last digit:
unless the dots are very many, far less than one half of a dot.
-/

namespace LabelPress
open Binary64 (IsOrdinary Approximates belowHalf)
variable {k : Nat} {p c : Rat} {a b n : Int} {x y : Binary64}

namespace Number

theorem exists_approximates_div_int (hb : b ≠ 0) (hp : IsOrdinary (a / b)) :
    ∃ y, (int a).div (int b) = .ok y ∧ Approximates 1 (a / b) y := by
  have hround (s : Bool) : Approximates 1 (a / b) (Binary64.round s (a / b)) := by
    refine Binary64.approximates_round (k := 0) hp (Nat.zero_le _) ?_
    rw [sub_self, abs_zero, Nat.cast_zero, zero_mul, zero_div]
  have hfits := Binary64.isFinite_round_iff.mp (hround false).finite
  exact ⟨_, div_int hb hfits, hround _⟩

theorem div_real (h : 0 < y.toRat) : (real x).div (real y) = .ok (x.div y) := by
  have hzero : y.isZero = false := by
    cases y with
    | finite s m e hc =>
      cases m with
      | zero => simp [Binary64.toRat] at h
      | succ m => rfl
    | _ => rfl
  change (if y.isZero then throw ArithmeticFault.floatDivisionByZero else pure (x.div y)) = _
  rw [hzero]
  rfl

theorem int_div_real (ha : |a| < 2 * leastMantissa) (hy : 0 < y.toRat) :
    (int a).div (real y) = .ok ((Binary64.ofInt a).div y) := by
  have hreal : (int a).div (real y) = (int a).toReal >>= fun x => (real x).div (real y) := rfl
  rw [hreal, toReal_int ha]
  exact div_real hy

theorem real_mul_int (hn : |n| < 2 * leastMantissa) :
    (real x).mul (int n) = .ok (real (x.mul (.ofInt n))) := by
  simp only [mul, toReal_int hn]
  rfl

/-- A number that stands for an integer that is not large is rounded to it. -/
theorem roundHalfUp_of_approximates (h : Approximates k n x) (hk : k ≤ 2 ^ 10) (hn : 0 ≤ n)
    (hn' : n ≤ 2 ^ 40) : (real x).roundHalfUp = .ok n := by
  have hlow : (0 : Rat) ≤ n := by exact_mod_cast hn
  have hhigh : (n : Rat) ≤ 2 ^ 40 := by exact_mod_cast hn'
  have herror : |x.toRat - n| ≤ n / 2 ^ 42 := by
    have hk' : (k : Rat) ≤ 2 ^ 10 := by exact_mod_cast hk
    have hmul := mul_le_mul_of_nonneg_right hk' hlow
    exact h.error.trans (by linarith)
  have hnear := abs_le.mp herror
  have hne : x.toRat ≠ belowHalf := by
    intro hx
    rw [hx] at hnear
    -- An integer is zero, and then the number is exact, or at least one.
    rcases hn.eq_or_lt with rfl | hpos
    · norm_num [belowHalf] at hnear
    · have hone : (1 : Rat) ≤ n := by exact_mod_cast hpos
      norm_num [belowHalf] at hnear
      linarith
  have hfloor : (x.toRat + 1 / 2).floor = n := by
    have hreached : (n : Rat) ≤ x.toRat + 1 / 2 := by linarith
    have hnext : x.toRat + 1 / 2 < n + 1 := by linarith
    exact Int.floor_eq_iff.mpr ⟨hreached, hnext⟩
  have hbound : |x.toRat| ≤ 2 ^ 51 := abs_le.mpr ⟨by linarith, by linarith⟩
  rw [roundHalfUp_of_rank (rank_real h.finite) hbound, if_neg hne, hfloor]

end Number

theorem millimetersPerInch_spec : millimetersPerInch.isFinite = true ∧
    1 ≤ millimetersPerInch.toRat ∧ millimetersPerInch.toRat ≤ 2 ^ 20 := by
  decide +kernel

/-- A factor that is neither small nor large keeps a number away from the ends of the format. -/
theorem isOrdinary_mul (hp : p = 0 ∨ 1 / 2 ^ 20 ≤ p ∧ p ≤ 2 ^ 40) (hlow : 1 ≤ c)
    (hhigh : c ≤ 2 ^ 20) : IsOrdinary (p * c) := by
  rcases hp with rfl | ⟨hplow, hphigh⟩
  · exact .inl (zero_mul c)
  · have hpos : 0 < p := lt_of_lt_of_le (by positivity) hplow
    refine .inr ⟨?_, ?_⟩
    · calc (1 : Rat) / 2 ^ 100 ≤ p := le_trans (by norm_num) hplow
        _ ≤ p * c := le_mul_of_one_le_right hpos.le hlow
    · calc p * c ≤ 2 ^ 40 * 2 ^ 20 := mul_le_mul hphigh hhigh (by linarith) (by positivity)
        _ ≤ 2 ^ 100 := by norm_num

section Resolution
variable {dpi : Int} (hn : 0 ≤ n) (hn' : n ≤ 2 ^ 40) (hdpi : 1 ≤ dpi) (hdpi' : dpi ≤ 10 ^ 6)
include hn hn' hdpi hdpi'

/-- The exact number of inches is zero or neither small nor large. -/
theorem inches_bounds : (n / dpi : Rat) = 0 ∨ 1 / 2 ^ 20 ≤ (n / dpi : Rat) ∧
    (n / dpi : Rat) ≤ 2 ^ 40 := by
  have hlow : (1 : Rat) ≤ dpi := by exact_mod_cast hdpi
  have hhigh : (dpi : Rat) ≤ 10 ^ 6 := by exact_mod_cast hdpi'
  have hpos : (0 : Rat) < dpi := by linarith
  rcases hn.eq_or_lt with rfl | hone
  · exact .inl (by rw [Int.cast_zero, zero_div])
  · have hone' : (1 : Rat) ≤ n := by exact_mod_cast hone
    have hn'' : (n : Rat) ≤ 2 ^ 40 := by exact_mod_cast hn'
    refine .inr ⟨?_, ?_⟩
    · rw [le_div_iff₀ hpos]
      linarith
    · rw [div_le_iff₀ hpos]
      linarith

/-- Inches that are known up to a few units in the last digit lead back to the dots. -/
theorem dots_of_inches (hx : Approximates k (n / dpi) x) (hk : k + 1 ≤ 2 ^ 10) :
    ((Number.real x).mul (.int dpi) >>= Number.roundHalfUp) = .ok n := by
  have hsmall : |dpi| < 2 * leastMantissa := by
    rw [abs_of_nonneg (by omega)]
    exact hdpi'.trans_lt (by decide)
  obtain ⟨hfinite, hvalue⟩ := Binary64.toRat_ofInt hsmall
  have hlow : (1 : Rat) ≤ dpi := by exact_mod_cast hdpi
  have hhigh : (dpi : Rat) ≤ 2 ^ 20 := by exact_mod_cast hdpi'.trans (by decide)
  have hproduct := hx.mul (by omega) hfinite (by rw [hvalue]; linarith)
    (by rw [hvalue]; exact isOrdinary_mul (inches_bounds hn hn' hdpi hdpi') hlow hhigh)
  rw [hvalue, div_mul_cancel₀ _ (by linarith)] at hproduct
  rw [Number.real_mul_int hsmall]
  exact Number.roundHalfUp_of_approximates hproduct hk hn hn'

/-- The length of a number of dots is turned into that number of dots. -/
theorem toDots_fromDots (unit : LengthUnit) :
    (do
      let length ← fromDots (.int n) unit (.int dpi)
      toDots (.real length) unit (.int dpi)) = .ok n := by
  have hbounds := inches_bounds hn hn' hdpi hdpi'
  have hinches : IsOrdinary (n / dpi) := by
    have h := isOrdinary_mul hbounds le_rfl (by norm_num)
    rwa [mul_one] at h
  obtain ⟨x, hx, happrox⟩ := Number.exists_approximates_div_int (by omega) hinches
  simp only [toDots_eq]
  cases unit with
  | inch =>
    simp only [fromDots, exactDots, hx]
    exact dots_of_inches hn hn' hdpi hdpi' happrox (by decide)
  | millimeter =>
    obtain ⟨hfinite, hlow, hhigh⟩ := millimetersPerInch_spec
    have hpos : 0 < millimetersPerInch.toRat := by linarith
    have hlength := happrox.mul (by decide) hfinite hpos (isOrdinary_mul hbounds hlow hhigh)
    have hback := hlength.div (by decide) hfinite hpos
      (by rwa [mul_div_cancel_right₀ _ hpos.ne'])
    rw [mul_div_cancel_right₀ _ hpos.ne'] at hback
    simp only [fromDots, exactDots, hx, Number.div_real hpos]
    exact dots_of_inches hn hn' hdpi hdpi' hback (by decide)

end Resolution

theorem toDots_fromDots_millimeter :
    (0 : Int) ≤ 2 ^ 40 ∧ (2 ^ 40 : Int) ≤ 2 ^ 40 ∧ (1 : Int) ≤ 999983 ∧
      (999983 : Int) ≤ 10 ^ 6 ∧
      (do
        let length ← fromDots (.int (2 ^ 40)) .millimeter (.int 999983)
        toDots (.real length) .millimeter (.int 999983)) = .ok (2 ^ 40) :=
  ⟨by decide, by decide, by decide, by decide,
    toDots_fromDots (by decide) (by decide) (by decide) (by decide) .millimeter⟩

end LabelPress
