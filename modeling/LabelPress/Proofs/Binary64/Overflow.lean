import LabelPress.Number
import Mathlib.Algebra.Order.Field.Power
import Mathlib.Data.Rat.Floor
import Mathlib.Tactic.Linarith
import Mathlib.Tactic.GCongr
import Mathlib.Tactic.Positivity

/-!
# Where rounding overflows

A rational is rounded to a finite number exactly if its magnitude lies below `overflow`, halfway
between the largest finite number and the power of two behind it.
-/

namespace LabelPress

/-- An even integer is reached from half a unit below it on, the tie included. -/
theorem le_roundHalfEven_iff {n : Int} (hn : n % 2 = 0) {q : Rat} :
    n ≤ roundHalfEven q ↔ (n : Rat) - 1 / 2 ≤ q := by
  have hlow : (q.floor : Rat) ≤ q := Rat.floor_le q
  have hhigh : q < q.floor + 1 := by exact_mod_cast Rat.lt_floor_add_one q
  rcases lt_trichotomy n (q.floor + 1) with hlt | heq | hgt
  · have hle : (n : Rat) ≤ q.floor := by exact_mod_cast Int.lt_add_one_iff.mp hlt
    refine iff_of_true ?_ (by linarith)
    unfold roundHalfEven
    grind
  · have hq : (n : Rat) = q.floor + 1 := by exact_mod_cast heq
    unfold roundHalfEven
    grind
  · have hge : (q.floor : Rat) + 1 + 1 ≤ n := by exact_mod_cast Int.add_one_le_of_lt hgt
    refine iff_of_false ?_ (by linarith)
    unfold roundHalfEven
    grind

namespace Binary64

theorem floorLog2_spec {q : Rat} (hq : 0 < q) :
    (2 : Rat) ^ floorLog2 q ≤ q ∧ q < (2 : Rat) ^ (floorLog2 q + 1) := by
  have hpos : 0 < q.num := Rat.num_pos.mpr hq
  have hnum : (q.num.natAbs : Rat) = q * q.den := by
    have habs : (q.num.natAbs : Int) = q.num := by omega
    rw [← Int.cast_natCast, habs, Rat.mul_den_eq_num]
  have hn₁ : (2 : Rat) ^ q.num.natAbs.log2 ≤ q * q.den := by
    rw [← hnum]
    exact_mod_cast Nat.log2_self_le (show q.num.natAbs ≠ 0 by omega)
  have hn₂ : q * q.den < (2 : Rat) ^ (q.num.natAbs.log2 + 1) := by
    rw [← hnum]
    exact_mod_cast Nat.lt_log2_self
  have hd₁ : (2 : Rat) ^ q.den.log2 ≤ q.den := by exact_mod_cast Nat.log2_self_le q.den_nz
  have hd₂ : (q.den : Rat) < (2 : Rat) ^ (q.den.log2 + 1) := by exact_mod_cast Nat.lt_log2_self
  have hpow : ∀ j : Int, (2 : Rat) ^ ((q.num.natAbs.log2 : Int) - q.den.log2 + j) =
      2 ^ q.num.natAbs.log2 * 2 ^ j / 2 ^ q.den.log2 := by
    intro j
    rw [zpow_add₀ two_ne_zero, zpow_sub₀ two_ne_zero, zpow_natCast, zpow_natCast]
    ring
  have hpowb : (0 : Rat) < 2 ^ q.den.log2 := by positivity
  have hupper : q < (2 : Rat) ^ ((q.num.natAbs.log2 : Int) - q.den.log2 + 1) := by
    rw [hpow, lt_div_iff₀ hpowb, zpow_one, ← pow_succ]
    exact lt_of_le_of_lt (mul_le_mul_of_nonneg_left hd₁ hq.le) hn₂
  have hlower : (2 : Rat) ^ ((q.num.natAbs.log2 : Int) - q.den.log2 - 1) ≤ q := by
    rw [sub_eq_add_neg _ (1 : Int), hpow, div_le_iff₀ hpowb, zpow_neg_one]
    have hmul := mul_lt_mul_of_pos_left hd₂ hq
    rw [pow_succ] at hmul
    linarith
  by_cases hle : (2 : Rat) ^ ((q.num.natAbs.log2 : Int) - q.den.log2) ≤ q
  · have hlog : floorLog2 q = (q.num.natAbs.log2 : Int) - q.den.log2 := if_pos hle
    rw [hlog]
    exact ⟨hle, hupper⟩
  · have hlog : floorLog2 q = (q.num.natAbs.log2 : Int) - q.den.log2 - 1 := if_neg hle
    rw [hlog, sub_add_cancel]
    exact ⟨hlower, not_le.mp hle⟩

def topExponent : Int := 971

/-- The least magnitude that is rounded to an infinity: it lies halfway between the largest finite
number and the power of two behind it. -/
def overflow : Rat := (2 * leastMantissa - 1 / 2) * (2 : Rat) ^ topExponent

/-- On its grid a magnitude has at most 53 digits before the point, and exactly 53 unless the grid
is the finest one. -/
theorem gridExponent_spec {q : Rat} (hq : 0 < q) :
    -1074 ≤ gridExponent q ∧ q / (2 : Rat) ^ gridExponent q < 2 * leastMantissa ∧
      (gridExponent q = -1074 ∨ leastMantissa ≤ q / (2 : Rat) ^ gridExponent q) := by
  obtain ⟨hlow, hhigh⟩ := floorLog2_spec hq
  have hpos : (0 : Rat) < 2 ^ gridExponent q := by positivity
  have hleast : (leastMantissa : Rat) = 2 ^ (52 : Int) := by norm_num [leastMantissa]
  have hge : floorLog2 q - 52 ≤ gridExponent q := le_max_right _ _
  refine ⟨le_max_left _ _, ?_, ?_⟩
  · rw [div_lt_iff₀ hpos, hleast, ← zpow_one_add₀ two_ne_zero, ← zpow_add₀ two_ne_zero]
    exact hhigh.trans_le (zpow_le_zpow_right₀ one_le_two (by omega))
  · rcases max_choice (-1074 : Int) (floorLog2 q - 52) with hmax | hmax
    · exact Or.inl hmax
    · right
      rw [le_div_iff₀ hpos, hleast, ← zpow_add₀ two_ne_zero]
      exact le_trans (zpow_le_zpow_right₀ one_le_two (by unfold gridExponent; omega)) hlow

/-- A magnitude is below the overflow exactly if its grid is not too coarse; on the coarsest grid it
must not be rounded up to the next power of two. -/
theorem lt_overflow_iff {q : Rat} (hq : 0 < q) :
    q < overflow ↔ gridExponent q < topExponent ∨ gridExponent q = topExponent ∧
      q / (2 : Rat) ^ gridExponent q < 2 * leastMantissa - 1 / 2 := by
  obtain ⟨-, hhigh, hlow⟩ := gridExponent_spec hq
  have hpos : (0 : Rat) < 2 ^ gridExponent q := by positivity
  have htop : (0 : Rat) < 2 ^ topExponent := by positivity
  have hleast : (1 : Rat) ≤ leastMantissa := by norm_num [leastMantissa]
  rcases lt_trichotomy (gridExponent q) topExponent with hlt | heq | hgt
  · have hgrid : (2 : Rat) ^ gridExponent q * 2 ≤ 2 ^ topExponent := by
      rw [← zpow_add_one₀ two_ne_zero]
      exact zpow_le_zpow_right₀ one_le_two hlt
    refine iff_of_true ?_ (Or.inl hlt)
    calc q < 2 * leastMantissa * 2 ^ gridExponent q := (div_lt_iff₀ hpos).mp hhigh
      _ = leastMantissa * (2 ^ gridExponent q * 2) := by ring
      _ ≤ leastMantissa * 2 ^ topExponent := mul_le_mul_of_nonneg_left hgrid (by linarith)
      _ ≤ overflow := mul_le_mul_of_nonneg_right (by linarith) htop.le
  · rw [or_iff_right heq.not_lt, and_iff_right heq, div_lt_iff₀ hpos, heq]
    rfl
  · have hgrid : (2 : Rat) ^ topExponent * 2 ≤ 2 ^ gridExponent q := by
      rw [← zpow_add_one₀ two_ne_zero]
      exact zpow_le_zpow_right₀ one_le_two hgt
    have hfinest : (-1074 : Int) < topExponent := by decide
    have hnormal : (leastMantissa : Rat) ≤ q / 2 ^ gridExponent q := hlow.resolve_left (by omega)
    refine iff_of_false (not_lt.mpr ?_) (by omega)
    calc overflow ≤ 2 * leastMantissa * 2 ^ topExponent :=
          mul_le_mul_of_nonneg_right (by linarith) htop.le
      _ = leastMantissa * (2 ^ topExponent * 2) := by ring
      _ ≤ leastMantissa * 2 ^ gridExponent q := mul_le_mul_of_nonneg_left hgrid (by linarith)
      _ ≤ q := (le_div_iff₀ hpos).mp hnormal

/-- A mantissa that fills its grid is halved and still has a place, unless the grid is the coarsest
one. -/
theorem canonical_or_halved {m : Nat} {e : Int} (hexp : -1074 ≤ e)
    (hnormal : e = -1074 ∨ leastMantissa ≤ m) (hbound : m < 2 * leastMantissa + 2) :
    Canonical m e ∨ Canonical (m / 2) (e + 1) ↔
      e < topExponent ∨ e = topExponent ∧ m < 2 * leastMantissa := by
  unfold Canonical topExponent leastMantissa at *
  omega

theorem isFinite_nearest_iff {negative : Bool} {q : Rat} (hq : 0 < q) :
    (nearest negative q).isFinite = true ↔ q < overflow := by
  obtain ⟨hexp, hhigh, hlow⟩ := gridExponent_spec hq
  obtain ⟨n, hn⟩ : ∃ n, roundHalfEven (q / (2 : Rat) ^ gridExponent q) = n := ⟨_, rfl⟩
  have hle : ∀ {k : Int}, k % 2 = 0 →
      (k ≤ n ↔ (k : Rat) - 1 / 2 ≤ q / (2 : Rat) ^ gridExponent q) :=
    fun hk => hn ▸ le_roundHalfEven_iff hk
  have hnonneg : 0 ≤ n := by
    have hq' : 0 ≤ q / (2 : Rat) ^ gridExponent q := by positivity
    rw [hle (by decide)]
    push_cast
    linarith
  have hnormal : gridExponent q = -1074 ∨ (leastMantissa : Int) ≤ n := by
    refine hlow.imp_right fun h => (hle (by decide)).mpr ?_
    push_cast
    linarith
  have hbound : n < 2 * leastMantissa + 2 := by
    rw [← not_le, hle (by decide), not_le]
    push_cast
    linarith
  have hfull : n < 2 * leastMantissa ↔
      q / (2 : Rat) ^ gridExponent q < 2 * leastMantissa - 1 / 2 := by
    rw [← not_le, ← not_le, hle (by decide)]
    push_cast
    rfl
  have hnearest : (nearest negative q).isFinite = true ↔
      Canonical n.toNat (gridExponent q) ∨ Canonical (n.toNat / 2) (gridExponent q + 1) := by
    simp only [nearest, hn]
    split
    · next h => exact iff_of_true rfl (Or.inl h)
    · next h =>
      split
      · next h' => exact iff_of_true rfl (Or.inr h')
      · next h' => exact iff_of_false Bool.false_ne_true (not_or.mpr ⟨h, h'⟩)
  rw [hnearest, lt_overflow_iff hq, ← hfull,
    canonical_or_halved hexp (hnormal.imp_right (by omega)) (by omega)]
  omega

theorem overflow_pos : 0 < overflow :=
  mul_pos (by norm_num [leastMantissa]) (zpow_pos two_pos topExponent)

theorem isFinite_round_iff {zeroNegative : Bool} {q : Rat} :
    (round zeroNegative q).isFinite = true ↔ |q| < overflow := by
  unfold round
  rcases lt_trichotomy q 0 with hneg | rfl | hpos
  · rw [if_neg hneg.ne, if_pos hneg, isFinite_nearest_iff (neg_pos.mpr hneg), abs_of_neg hneg]
  · rw [if_pos rfl, abs_zero]
    exact iff_of_true rfl overflow_pos
  · rw [if_neg hpos.ne', if_neg hpos.not_gt, isFinite_nearest_iff hpos, abs_of_pos hpos]

/-- Finite numbers lie at least a whole below the overflow. -/
theorem abs_toRat_add_one_lt (x : Binary64) : |x.toRat| + 1 < overflow := by
  have htop : (2 : Rat) < 2 ^ topExponent := by
    have := zpow_lt_zpow_right₀ (one_lt_two (α := Rat)) (show (1 : Int) < topExponent by decide)
    simpa using this
  have hleast : (1 : Rat) ≤ leastMantissa := by norm_num [leastMantissa]
  have hone : 1 < overflow := by
    unfold overflow
    nlinarith
  cases x with
  | nan p => simpa [toRat] using hone
  | infinity s => simpa [toRat] using hone
  | finite s m e h =>
    obtain ⟨hm, -, he, -⟩ := id h
    have habs : |toRat (.finite s m e h)| = m * (2 : Rat) ^ e := by
      cases s <;> simp [toRat, abs_mul]
    have hm' : (m : Rat) ≤ 2 * leastMantissa - 1 := by
      have : (m : Rat) + 1 ≤ 2 * leastMantissa := by exact_mod_cast hm
      linarith
    have he' : (2 : Rat) ^ e ≤ 2 ^ topExponent := zpow_le_zpow_right₀ one_le_two he
    have hmul : (m : Rat) * 2 ^ e ≤ (2 * leastMantissa - 1) * 2 ^ topExponent :=
      mul_le_mul hm' he' (by positivity) (by linarith)
    rw [habs]
    unfold overflow
    linarith

end Binary64
end LabelPress
