import LabelPress.Proofs.Binary64.Overflow

/-!
# What rounding keeps

A positive rational is rounded on its grid, to a multiple of the grid's power of two. A number with
few enough binary digits lies on its grid and is kept.
-/

namespace LabelPress

theorem le_roundHalfEven {n : Int} {q : Rat} (h : (n : Rat) ≤ q) : n ≤ roundHalfEven q := by
  have hfloor : n ≤ q.floor := Rat.le_floor_iff.mpr h
  unfold roundHalfEven
  grind

theorem roundHalfEven_le {n : Int} {q : Rat} (h : q ≤ n) : roundHalfEven q ≤ n := by
  have hlow : (q.floor : Rat) ≤ q := Rat.floor_le q
  have hfloor : q.floor ≤ n := by exact_mod_cast hlow.trans h
  rcases hfloor.lt_or_eq with hlt | rfl
  · unfold roundHalfEven
    grind
  · -- The rational is its own floor.
    have hrest : q - q.floor = 0 := by linarith
    unfold roundHalfEven
    grind

theorem roundHalfEven_intCast (n : Int) : roundHalfEven n = n :=
  le_antisymm (roundHalfEven_le le_rfl) (le_roundHalfEven le_rfl)

namespace Binary64

def gridded (q : Rat) : Rat :=
  roundHalfEven (q / (2 : Rat) ^ gridExponent q) * (2 : Rat) ^ gridExponent q

theorem gridded_zero : gridded 0 = 0 := by
  have hzero : roundHalfEven 0 = 0 := roundHalfEven_intCast 0
  rw [gridded, zero_div, hzero, Int.cast_zero, zero_mul]

theorem toRat_nearest {negative : Bool} {q : Rat} (hq : 0 < q)
    (h : (nearest negative q).isFinite = true) :
    (nearest negative q).toRat = (if negative then -1 else 1) * gridded q := by
  obtain ⟨hexp, hhigh, hlow⟩ := gridExponent_spec hq
  obtain ⟨n, hn⟩ : ∃ n, roundHalfEven (q / (2 : Rat) ^ gridExponent q) = n := ⟨_, rfl⟩
  have hnonneg : 0 ≤ n := hn ▸ le_roundHalfEven (by push_cast; positivity)
  have hnormal : gridExponent q = -1074 ∨ (leastMantissa : Int) ≤ n :=
    hlow.imp_right fun h => hn ▸ le_roundHalfEven (by exact_mod_cast h)
  have hbound : n ≤ 2 * leastMantissa := hn ▸ roundHalfEven_le (by push_cast; exact hhigh.le)
  have hnat : (n.toNat : Rat) = n := by exact_mod_cast Int.toNat_of_nonneg hnonneg
  rw [gridded, hn]
  revert h
  simp only [nearest, hn]
  split
  · intro _
    rw [toRat, hnat]
    split <;> ring
  · next hno =>
    split
    · next hhalf =>
      intro _
      -- Only the next power of two has no place on the grid.
      have heven : n.toNat = 2 * (n.toNat / 2) := by
        unfold Canonical leastMantissa at *
        omega
      have hhalved : (n : Rat) = 2 * (n.toNat / 2 : Nat) := by
        rw [← hnat]
        exact_mod_cast heven
      rw [toRat, hhalved, zpow_add_one₀ two_ne_zero]
      split <;> ring
    · intro h
      cases h

def rounded (q : Rat) : Rat := if q < 0 then -gridded (-q) else gridded q

theorem toRat_round {zeroNegative : Bool} {q : Rat}
    (h : (round zeroNegative q).isFinite = true) : (round zeroNegative q).toRat = rounded q := by
  unfold round at h ⊢
  unfold rounded
  rcases lt_trichotomy q 0 with hneg | rfl | hpos
  · rw [if_neg hneg.ne, if_pos hneg] at h ⊢
    rw [toRat_nearest (neg_pos.mpr hneg) h, if_pos hneg, if_pos rfl, neg_one_mul]
  · rw [if_pos rfl, if_neg (lt_irrefl 0), gridded_zero]
    simp [zero, toRat]
  · rw [if_neg hpos.ne', if_neg hpos.not_gt] at h ⊢
    rw [toRat_nearest hpos h, if_neg hpos.not_gt, if_neg Bool.false_ne_true, one_mul]

/-- A number of at most 53 binary digits that ends at `2 ^ k` has a grid at least as fine. -/
theorem gridExponent_le {q : Rat} {k : Int} (hq : 0 < q) (hk : -1074 ≤ k)
    (h : q < 2 * leastMantissa * 2 ^ k) : gridExponent q ≤ k := by
  obtain ⟨-, -, hlow⟩ := gridExponent_spec hq
  by_contra hlt
  have hpos : (0 : Rat) < 2 ^ gridExponent q := by positivity
  have hcoarse : leastMantissa * (2 : Rat) ^ gridExponent q ≤ q :=
    (le_div_iff₀ hpos).mp (hlow.resolve_left (by omega))
  have hgrid : (2 : Rat) ^ k * 2 ≤ 2 ^ gridExponent q := by
    rw [← zpow_add_one₀ two_ne_zero]
    exact zpow_le_zpow_right₀ one_le_two (by omega)
  have hleast : (0 : Rat) ≤ leastMantissa := Nat.cast_nonneg _
  have hmul := mul_le_mul_of_nonneg_left hgrid hleast
  linarith

theorem le_gridExponent {q : Rat} {k : Int} (hq : 0 < q) (h : leastMantissa * (2 : Rat) ^ k ≤ q) :
    k ≤ gridExponent q := by
  obtain ⟨-, hhigh, -⟩ := gridExponent_spec hq
  have hpow : (0 : Rat) < 2 ^ gridExponent q := by positivity
  have hlt : leastMantissa * (2 : Rat) ^ k < leastMantissa * 2 ^ (gridExponent q + 1) := by
    rw [zpow_add_one₀ two_ne_zero]
    linarith [(div_lt_iff₀ hpow).mp hhigh]
  have hleast : (0 : Rat) < leastMantissa := by norm_num [leastMantissa]
  have hexp := (zpow_lt_zpow_iff_right₀ one_lt_two).mp (lt_of_mul_lt_mul_left hlt hleast.le)
  omega

/-- A coarser power of two is a whole number of a finer one. -/
theorem two_zpow_div {j e : Int} (h : e ≤ j) :
    (2 : Rat) ^ j / 2 ^ e = ((2 ^ (j - e).toNat : Int) : Rat) := by
  rw [← zpow_sub₀ two_ne_zero, Int.cast_pow, Int.cast_ofNat, ← zpow_natCast,
    Int.toNat_of_nonneg (by omega)]

theorem gridded_of_mul {m k : Int} (hm : 0 < m) (hbound : m < 2 * leastMantissa)
    (hk : -1074 ≤ k) : gridded (m * 2 ^ k) = m * 2 ^ k := by
  have hpow : (0 : Rat) < 2 ^ k := by positivity
  have hq : (0 : Rat) < m * 2 ^ k := mul_pos (by exact_mod_cast hm) hpow
  have hle : gridExponent (m * 2 ^ k) ≤ k :=
    gridExponent_le hq hk (mul_lt_mul_of_pos_right (by exact_mod_cast hbound) hpow)
  rw [gridded]
  generalize gridExponent (m * 2 ^ k) = e at hle ⊢
  rw [mul_div_assoc, two_zpow_div hle, ← Int.cast_mul, roundHalfEven_intCast, Int.cast_mul,
    ← two_zpow_div hle]
  field_simp

end Binary64
end LabelPress
