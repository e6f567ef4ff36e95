import LabelPress.Proofs.Binary64.Order
import LabelPress.Proofs.Number

/-!
# Remainders

What remains of a number after its whole multiples of an integer are taken away towards zero has a
place in the format. A negative remainder is moved up by the integer, and so the result is the exact
remainder, which is not negative, rounded once.
-/

namespace LabelPress

/-- What remains of a rational after its whole multiples of `n` are taken away downwards. -/
def remainder (q : Rat) (n : Nat) : Rat := q - n * (q / n).floor

section Remainder
variable {q r : Rat} {n : Nat} {k : Int} (hn : 0 < n)
include hn

theorem remainder_nonneg : 0 ≤ remainder q n := by
  have hpos : (0 : Rat) < n := by exact_mod_cast hn
  have hfloor := mul_le_mul_of_nonneg_left (Rat.floor_le (q / n)) hpos.le
  rw [mul_div_cancel₀ q hpos.ne'] at hfloor
  exact sub_nonneg.mpr hfloor

theorem remainder_lt : remainder q n < n := by
  have hpos : (0 : Rat) < n := by exact_mod_cast hn
  have hfloor : q / n < (q / n).floor + 1 := by exact_mod_cast Rat.lt_floor_add_one (q / n)
  have hmul := mul_lt_mul_of_pos_left hfloor hpos
  rw [mul_div_cancel₀ q hpos.ne'] at hmul
  unfold remainder
  linarith

/-- There is only one remainder from zero to below `n`. -/
theorem remainder_eq (h : q = n * k + r) (hlow : 0 ≤ r) (hhigh : r < n) : remainder q n = r := by
  have hpos : (0 : Rat) < n := by exact_mod_cast hn
  have hfloor : (q / n).floor = k := by
    refine Int.floor_eq_iff.mpr ⟨(le_div_iff₀ hpos).mpr ?_, (div_lt_iff₀ hpos).mpr ?_⟩ <;> linarith
  rw [remainder, hfloor, h, add_sub_cancel_left]

theorem remainder_intCast (m : Int) : remainder m n = ((m % n : Int) : Rat) := by
  have hne : (n : Int) ≠ 0 := by omega
  refine remainder_eq hn (k := m / n) ?_ ?_ ?_
  · exact_mod_cast (Int.mul_ediv_add_emod m n).symm
  · exact_mod_cast Int.emod_nonneg m hne
  · exact_mod_cast Int.emod_lt_of_pos m (by omega)

end Remainder

/-- The quotient of numerator and denominator, cut off towards zero. -/
theorem num_tdiv_den (q : Rat) :
    q.num.tdiv q.den = if 0 ≤ q then q.floor else -(-q).floor := by
  split
  · next hq => rw [Int.tdiv_eq_ediv_of_nonneg (Rat.num_nonneg.mpr hq), Rat.floor_def]
  · next hq =>
    have hneg : 0 ≤ (-q).num := Rat.num_nonneg.mpr (by linarith)
    rw [Rat.floor_def, ← Int.tdiv_eq_ediv_of_nonneg hneg, Rat.num_neg_eq_neg_num,
      Rat.den_neg_eq_den, Int.neg_tdiv, neg_neg]

namespace Binary64
variable {q : Rat} {n : Nat}

/-- The remainder has the digits of the number down to its last place, and not more of them. -/
theorem isRepresentable_remainder (h : IsRepresentable q) (hq : 0 ≤ q) (hn : 0 < n)
    (hsmall : n < 2 * leastMantissa) : IsRepresentable (remainder q n) := by
  have hpos : (0 : Rat) < n := by exact_mod_cast hn
  have hlow := remainder_nonneg (q := q) hn
  have hhigh := remainder_lt (q := q) hn
  have hle : remainder q n ≤ q := by
    have hfloor : (0 : Rat) ≤ (q / n).floor := by
      exact_mod_cast Rat.le_floor_iff.mpr (by push_cast; positivity)
    exact sub_le_self q (by positivity)
  obtain ⟨c, hc⟩ : ∃ c, (q / n).floor = c := ⟨_, rfl⟩
  rw [remainder, hc] at hlow hhigh hle ⊢
  obtain ⟨m, k, rfl, hm, hk⟩ := h
  have hpow : (0 : Rat) < 2 ^ k := by positivity
  rcases le_or_gt 0 k with hwhole | hfraction
  · -- The number is an integer, and so is the remainder.
    obtain ⟨u, hu⟩ := exists_int_eq_two_zpow hwhole
    have hinteger : (m : Rat) * 2 ^ k - n * c = ((m * u - n * c : Int) : Rat) := by
      rw [hu]
      push_cast
      rfl
    rw [hinteger] at hlow hhigh ⊢
    have hlow' : 0 ≤ m * u - n * c := by exact_mod_cast hlow
    have hhigh' : m * u - n * c < (n : Int) := by exact_mod_cast hhigh
    exact isRepresentable_intCast (abs_lt.mpr ⟨by omega, by omega⟩)
  · obtain ⟨u, hu⟩ := exists_int_eq_two_zpow (show 0 ≤ -k by omega)
    have hunit : (u : Rat) * 2 ^ k = 1 := by
      rw [← hu, ← zpow_add₀ two_ne_zero, neg_add_cancel, zpow_zero]
    have hscaled : (m : Rat) * 2 ^ k - n * c = ((m - n * c * u : Int) : Rat) * 2 ^ k := by
      push_cast
      rw [sub_mul, mul_assoc (n * c : Rat), hunit, mul_one]
    rw [hscaled] at hlow hle ⊢
    refine ⟨_, k, rfl, lt_of_le_of_lt (abs_le_abs_of_nonneg ?_ ?_) hm, hk⟩
    · exact_mod_cast nonneg_of_mul_nonneg_left hlow hpow
    · exact_mod_cast le_of_mul_le_mul_right hle hpow

theorem lt_overflow_of_small (h : q < 2 * leastMantissa) : q < overflow :=
  h.trans (by decide +kernel)

section Mod
variable {x : Binary64} (hx : x.isFinite = true) (hn : 0 < n)
include hx hn

theorem mod_of_nonneg (h : 0 ≤ x.toRat) : x.mod n = ofRat (remainder x.toRat n) := by
  have hlow := remainder_nonneg (q := x.toRat) hn
  cases x with
  | finite s m e hc =>
    simp only [mod, num_tdiv_den, if_pos (div_nonneg h (Nat.cast_nonneg n))]
    exact if_neg hlow.not_gt
  | _ => cases hx

/-- The remainder towards zero is that of the opposite number, with a minus sign. -/
theorem mod_of_neg (h : x.toRat < 0) : x.mod n =
    if remainder (-x.toRat) n = 0 then ofRat 0
    else (ofRat (-remainder (-x.toRat) n)).add (ofInt n) := by
  have hlow := remainder_nonneg (q := -x.toRat) hn
  have hpos : (0 : Rat) < n := by exact_mod_cast hn
  have hopposite : x.toRat - n * ((-(-(x.toRat / n)).floor : Int) : Rat) =
      -remainder (-x.toRat) n := by
    rw [remainder, neg_div]
    push_cast
    ring
  cases x with
  | finite s m e hc =>
    simp only [mod, num_tdiv_den, if_neg (not_le.mpr (div_neg_of_neg_of_pos h hpos)), hopposite]
    split
    · next hneg => rw [if_neg (by linarith)]
    · next hneg =>
      obtain hzero : remainder (-toRat (.finite s m e hc)) n = 0 := by linarith
      rw [if_pos hzero, hzero, neg_zero]
  | _ => cases hx

theorem toRat_mod (hsmall : n < 2 * leastMantissa) : (x.mod n).isFinite = true ∧
    (x.mod n).toRat = rounded (remainder x.toRat n) := by
  have hn' : (n : Rat) < 2 * leastMantissa := by exact_mod_cast hsmall
  have hpos : (0 : Rat) < n := by exact_mod_cast hn
  have hfits : ∀ r : Rat, 0 ≤ r → r ≤ n → |r| < overflow := fun r hlow hhigh => by
    rw [abs_of_nonneg hlow]
    exact lt_overflow_of_small (hhigh.trans_lt hn')
  rcases le_or_gt 0 x.toRat with hnonneg | hneg
  · rw [mod_of_nonneg hx hn hnonneg]
    exact toRat_round_eq (hfits _ (remainder_nonneg hn) (remainder_lt hn).le)
  have hrepresentable : IsRepresentable (-remainder (-x.toRat) n) :=
    (isRepresentable_remainder (isRepresentable_toRat x).neg (by linarith) hn hsmall).neg
  have hlow := remainder_nonneg (q := -x.toRat) hn
  have hhigh := remainder_lt (q := -x.toRat) hn
  obtain ⟨r, hr⟩ : ∃ r, remainder (-x.toRat) n = r := ⟨_, rfl⟩
  obtain ⟨c, hcut⟩ : ∃ c : Int, x.toRat = n * ((-c : Int) : Rat) + -r :=
    ⟨(-x.toRat / n).floor, by rw [← hr, remainder]; push_cast; ring⟩
  rw [mod_of_neg hx hn hneg]
  rw [hr] at hrepresentable hlow hhigh ⊢
  split
  · next hzero =>
    rw [hzero, neg_zero] at hcut
    rw [remainder_eq hn hcut le_rfl hpos]
    exact toRat_round_eq (hfits 0 le_rfl hpos.le)
  · next hne =>
    have hlt : 0 < r := lt_of_le_of_ne hlow (Ne.symm hne)
    have hmoved : x.toRat = n * ((-c - 1 : Int) : Rat) + (-r + n) := by
      push_cast at hcut ⊢
      linarith
    obtain ⟨hfinite, hvalue⟩ : (ofRat (-r)).isFinite = true ∧ (ofRat (-r)).toRat = rounded (-r) :=
      toRat_round_eq (by rw [abs_neg]; exact hfits r hlow hhigh.le)
    rw [hrepresentable.rounded_eq] at hvalue
    obtain ⟨hfinite', hvalue'⟩ := toRat_ofInt (n := n) (abs_lt.mpr ⟨by omega, by omega⟩)
    have hsum : (ofRat (-r)).toRat + (ofInt n).toRat = -r + n := by
      rw [hvalue, hvalue', Int.cast_natCast]
    rw [remainder_eq hn hmoved (by linarith) (by linarith), ← hsum]
    exact toRat_add hfinite hfinite' (hsum ▸ hfits _ (by linarith) (by linarith))

end Mod

end Binary64
end LabelPress
