import LabelPress.Proofs.Binary64.Order
import LabelPress.Proofs.Number

/-!
# The nearest dot

A number goes to its nearest dot by way of a sum with one half, which is rounded itself. The sum of
a number of the format that is not large is exact, or at least rounded to nothing beyond the next
integer, but for the last number below one half: its sum is rounded up to one.
-/

namespace LabelPress
namespace Binary64
variable {q : Rat}

def belowHalf : Rat := 1 / 2 - 1 / 2 ^ 54

/-- Only the last number below one half is so near to it. -/
theorem eq_belowHalf (h : IsRepresentable q) (hlow : belowHalf ≤ q) (hhigh : q < 1 / 2) :
    q = belowHalf := by
  obtain ⟨m, k, rfl, hm, -⟩ := h
  have hpow : (0 : Rat) < 2 ^ k := by positivity
  have hm' : (m : Rat) < 2 * leastMantissa := by exact_mod_cast (le_abs_self m).trans_lt hm
  have hk : -55 < k := by
    have hlt : (2 : Rat) ^ (-55 : Int) < 2 ^ k := by
      have hmul := mul_lt_mul_of_pos_right hm' hpow
      norm_num [belowHalf, leastMantissa] at hlow hmul ⊢
      linarith
    exact (zpow_lt_zpow_iff_right₀ one_lt_two).mp hlt
  -- In units of the last place below one half it is an integer.
  obtain ⟨u, hu⟩ := exists_int_eq_two_zpow (show 0 ≤ k + 54 by omega)
  have hunits : (m : Rat) * 2 ^ k = ((m * u : Int) : Rat) / 2 ^ 54 := by
    rw [Int.cast_mul, ← hu, zpow_add₀ two_ne_zero]
    norm_num
    ring
  rw [hunits] at hlow hhigh ⊢
  obtain ⟨w, hw⟩ : ∃ w, m * u = w := ⟨_, rfl⟩
  rw [hw] at hlow hhigh ⊢
  have hlow' : 2 ^ 53 - 1 ≤ w := by
    have hle : (2 : Rat) ^ 53 - 1 ≤ w := by
      norm_num [belowHalf] at hlow ⊢
      linarith
    exact_mod_cast hle
  have hhigh' : w < 2 ^ 53 := by
    have hlt : (w : Rat) < 2 ^ 53 := by
      norm_num at hhigh ⊢
      linarith
    exact_mod_cast hlt
  obtain rfl : w = 2 ^ 53 - 1 := by omega
  norm_num [belowHalf]

theorem one_le_rounded_add_half_iff : 1 ≤ rounded (q + 1 / 2) ↔ belowHalf ≤ q := by
  have hreached := le_rounded_iff_of_even (m := 2 * leastMantissa) (k := -53) (q := q + 1 / 2)
    (by decide) le_rfl (by decide) (by decide)
  norm_num [leastMantissa] at hreached
  rw [hreached]
  constructor <;> intro h <;> norm_num [belowHalf] at h ⊢ <;> linarith

section Sum
variable {m k n : Int} (hlow : (n : Rat) < m * 2 ^ k) (hhigh : (m : Rat) * 2 ^ k < n + 1 / 2)
include hlow hhigh

/-- A number between two integers has digits behind the point. -/
theorem exponent_neg_of_between : k ≤ -1 := by
  by_contra hk
  obtain ⟨u, hu⟩ := exists_int_eq_two_zpow (show 0 ≤ k by omega)
  rw [hu, ← Int.cast_mul] at hlow hhigh
  have hlow' : n < m * u := by exact_mod_cast hlow
  have hhigh' : ((m * u : Int) : Rat) < ((n + 1 : Int) : Rat) := by
    push_cast at hhigh ⊢
    linarith
  have hhigh'' : m * u < n + 1 := by exact_mod_cast hhigh'
  omega

/-- Where a number passes an integer other than zero by less than one half, the sum with one half
needs no digits before those of the number. -/
theorem abs_add_half_lt (hn : n ≠ 0) (hm : |(m : Rat) * 2 ^ k| < 2 * leastMantissa * 2 ^ k) :
    |(m : Rat) * 2 ^ k + 1 / 2| < 2 * leastMantissa * 2 ^ k := by
  rw [abs_lt] at hm ⊢
  rcases Int.lt_or_gt_of_ne hn with hneg | hpos
  · have hn' : (n : Rat) ≤ -1 := by exact_mod_cast Int.le_sub_one_of_lt hneg
    constructor <;> linarith
  · -- The power of two above the number is an integer, so the next integer is not above it.
    have hn' : (1 : Rat) ≤ n := by exact_mod_cast hpos
    have htop : 2 * leastMantissa * (2 : Rat) ^ k = 2 ^ (53 + k) := by
      rw [zpow_add₀ two_ne_zero]
      norm_num [leastMantissa]
    rw [htop] at hm ⊢
    have hexponent : 0 < 53 + k := by
      have hlt : (2 : Rat) ^ (0 : Int) < 2 ^ (53 + k) := by
        rw [zpow_zero]
        linarith
      exact (zpow_lt_zpow_iff_right₀ one_lt_two).mp hlt
    obtain ⟨t, ht⟩ := exists_int_eq_two_zpow hexponent.le
    rw [ht] at hm ⊢
    have hnext : n < t := by exact_mod_cast hlow.trans hm.2
    have hnext' : (n : Rat) + 1 ≤ t := by exact_mod_cast hnext
    constructor <;> linarith

end Sum

/-- A sum that passes an integer other than zero by less than one half is exact. -/
theorem isRepresentable_sum_half (h : IsRepresentable q) {n : Int} (hn : n ≠ 0) (hlow : n < q)
    (hhigh : q < n + 1 / 2) : IsRepresentable (q + 1 / 2) := by
  obtain ⟨m, k, rfl, hm, hleast⟩ := h
  have hpow : (0 : Rat) < 2 ^ k := by positivity
  have hfraction := exponent_neg_of_between hlow hhigh
  obtain ⟨u, hu⟩ := exists_int_eq_two_zpow (show 0 ≤ -1 - k by omega)
  have hsum : (m : Rat) * 2 ^ k + 1 / 2 = ((m + u : Int) : Rat) * 2 ^ k := by
    rw [Int.cast_add, ← hu, add_mul, ← zpow_add₀ two_ne_zero, sub_add_cancel, zpow_neg_one]
    norm_num
  have hmagnitude : |(m : Rat) * 2 ^ k| < 2 * leastMantissa * 2 ^ k := by
    rw [abs_mul, abs_of_pos hpow]
    exact mul_lt_mul_of_pos_right (by exact_mod_cast hm) hpow
  have hlt := abs_add_half_lt hlow hhigh hn hmagnitude
  rw [hsum, abs_mul, abs_of_pos hpow, mul_lt_mul_iff_left₀ hpow] at hlt
  exact ⟨m + u, k, hsum, by exact_mod_cast hlt, hleast⟩

theorem rounded_add_half_lt (h : IsRepresentable q) (hbound : |q| ≤ 2 ^ 51) (hne : q ≠ belowHalf) :
    rounded (q + 1 / 2) < (q + 1 / 2).floor + 1 := by
  obtain ⟨n, hn⟩ : ∃ n, (q + 1 / 2).floor = n := ⟨_, rfl⟩
  have hlow : (n : Rat) ≤ q + 1 / 2 := hn ▸ Rat.floor_le _
  have hhigh : q + 1 / 2 < n + 1 := hn ▸ mod_cast Rat.lt_floor_add_one (q + 1 / 2)
  rw [hn]
  rcases le_or_gt q n with hle | hgt
  · have hsmall : |n| < leastMantissa := by
      have hq := abs_le.mp hbound
      have hn' : |(n : Rat)| < (leastMantissa : Int) := by
        norm_num [leastMantissa] at hq ⊢
        exact abs_lt.mpr ⟨by linarith, by linarith⟩
      exact_mod_cast hn'
    have hround := (isRepresentable_add_half hsmall).rounded_le (p := q + 1 / 2) (by linarith)
    linarith
  by_cases hzero : n = 0
  · subst hzero
    have hbelow : ¬belowHalf ≤ q := fun hge => hne (eq_belowHalf h hge (by linarith))
    rw [← one_le_rounded_add_half_iff, not_le] at hbelow
    rwa [Int.cast_zero, zero_add]
  · rwa [(isRepresentable_sum_half h hzero hgt (by linarith)).rounded_eq]

/-- The last number below one half goes to one, and every other number that is not large to its
nearest integer. -/
theorem floor_rounded_add_half (h : IsRepresentable q) (hbound : |q| ≤ 2 ^ 51) :
    (rounded (q + 1 / 2)).floor = if q = belowHalf then 1 else (q + 1 / 2).floor := by
  split
  · next hq =>
    subst hq
    decide +kernel
  · next hne =>
    obtain ⟨n, hn⟩ : ∃ n, (q + 1 / 2).floor = n := ⟨_, rfl⟩
    have hlow : (n : Rat) ≤ q + 1 / 2 := hn ▸ Rat.floor_le _
    have hlt := rounded_add_half_lt h hbound hne
    have hsmall : |n| < 2 * leastMantissa := by
      have hhigh : q + 1 / 2 < n + 1 := hn ▸ mod_cast Rat.lt_floor_add_one (q + 1 / 2)
      have hq := abs_le.mp hbound
      have hn' : |(n : Rat)| < (2 * leastMantissa : Int) := by
        norm_num [leastMantissa] at hq ⊢
        exact abs_lt.mpr ⟨by linarith, by linarith⟩
      exact_mod_cast hn'
    rw [hn] at hlt ⊢
    exact Int.floor_eq_iff.mpr ⟨(isRepresentable_intCast hsmall).le_rounded hlow, hlt⟩

end Binary64

namespace Number
open Binary64 (belowHalf rounded)
variable {x : Number} {q : Rat}

/-- A number that is not large is a binary64 number, or an integer that is kept when it becomes
one. -/
theorem exists_toReal_of_rank (hrank : x.rank = some (0, q)) (hq : |q| < 2 * leastMantissa) :
    ∃ y, x.toReal = .ok y ∧ y.isFinite = true ∧ y.toRat = q := by
  cases x with
  | int n =>
    cases hrank
    have hn : |n| < 2 * leastMantissa := by exact_mod_cast hq
    exact ⟨_, toReal_int hn, Binary64.toRat_ofInt hn⟩
  | real y =>
    cases y with
    | finite s m e h =>
      cases hrank
      exact ⟨_, rfl, rfl, rfl⟩
    | nan p => cases hrank
    | infinity s => cases s <;> cases hrank

theorem roundHalfUp_of_rank (hrank : x.rank = some (0, q)) (hq : |q| ≤ 2 ^ 51) :
    x.roundHalfUp = .ok (if q = belowHalf then 1 else (q + 1 / 2).floor) := by
  have hsmall : |q| < 2 * leastMantissa := hq.trans_lt (by norm_num [leastMantissa])
  obtain ⟨y, hy, hfinite, rfl⟩ := exists_toReal_of_rank hrank hsmall
  refine roundHalfUp_eq_ok.mpr ⟨y, hy, hfinite, ?_⟩
  rw [Binary64.toRat_add_half_eq hfinite,
    Binary64.floor_rounded_add_half (Binary64.isRepresentable_toRat y) hq]

/-- The dots of a number are at least one from the last number below one half on. -/
theorem one_le_roundHalfUp_iff (hrank : x.rank = some (0, q)) (hq : |q| < 2 * leastMantissa)
    {n : Int} (h : x.roundHalfUp = .ok n) : 1 ≤ n ↔ belowHalf ≤ q := by
  obtain ⟨y, hy, hfinite, rfl⟩ := exists_toReal_of_rank hrank hq
  obtain ⟨y', hy', -, rfl⟩ := roundHalfUp_eq_ok.mp h
  cases hy.symm.trans hy'
  rw [Rat.le_floor_iff, Int.cast_one, Binary64.toRat_add_half_eq hfinite,
    Binary64.one_le_rounded_add_half_iff]

/-- A number that is not large goes to its nearest dot, halves going up, exactly if it is not the
last number below one half. -/
theorem nearest_dot_iff (hrank : x.rank = some (0, q)) (hq : |q| ≤ 2 ^ 51) :
    (x.roundHalfUp = .ok (q + 1 / 2).floor ↔ q ≠ belowHalf) ∧
      (x.roundDots = .ok (q + 1 / 2).floor.toNat ↔ q ≠ belowHalf) := by
  have hround := roundHalfUp_of_rank hrank hq
  have hdots : x.roundDots = x.roundHalfUp >>= fun n => pure n.toNat := rfl
  by_cases h : q = belowHalf
  · subst h
    have hfloor : (belowHalf + 1 / 2).floor = 0 := by decide +kernel
    rw [hdots, hround, if_pos rfl, hfloor]
    exact ⟨iff_of_false (by decide) (not_not.mpr rfl), iff_of_false (by decide) (not_not.mpr rfl)⟩
  · rw [hdots, hround, if_neg h]
    exact ⟨iff_of_true rfl h, iff_of_true rfl h⟩

def lastTie : Number := .real (.ofRat (2 ^ 51 - 1 / 2))

theorem nearest_dot_lastTie : lastTie.rank = some (0, 2 ^ 51 - 1 / 2) ∧
    |(2 ^ 51 - 1 / 2 : Rat)| ≤ 2 ^ 51 ∧ lastTie.roundHalfUp = .ok (2 ^ 51) ∧
    lastTie.roundDots = .ok (2 ^ 51) := by
  have hrank : lastTie.rank = some (0, 2 ^ 51 - 1 / 2) := by decide +kernel
  have hbound : |(2 ^ 51 - 1 / 2 : Rat)| ≤ 2 ^ 51 := by decide +kernel
  have hne : (2 ^ 51 - 1 / 2 : Rat) ≠ belowHalf := by decide +kernel
  have hfloor : ((2 ^ 51 - 1 / 2 : Rat) + 1 / 2).floor = 2 ^ 51 := by decide +kernel
  obtain ⟨hround, hdots⟩ := nearest_dot_iff hrank hbound
  rw [hfloor] at hround hdots
  exact ⟨hrank, hbound, hround.mpr hne, hdots.mpr hne⟩

def almostHalf : Number := .real (.ofRat belowHalf)

theorem almostHalf_goes_to_one : almostHalf.rank = some (0, belowHalf) ∧
    |belowHalf| ≤ 2 ^ 51 ∧ (belowHalf + 1 / 2).floor = 0 ∧
    almostHalf.roundHalfUp = .ok 1 ∧ almostHalf.roundDots = .ok 1 :=
  ⟨by decide +kernel, by decide +kernel, by decide +kernel, by decide +kernel, by decide +kernel⟩

end Number
end LabelPress
