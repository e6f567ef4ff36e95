import LabelPress.Proofs.Binary64.Rounding

/-!
# Rounding keeps the order

Rounding never exchanges two rationals, and it keeps the numbers that have a place in the format. So
a number of 53 binary digits is reached by what lies at most half a unit of its last digit below it;
from the very middle it is reached only if that digit is even.
-/

namespace LabelPress

theorem roundHalfEven_mono {p q : Rat} (h : p ≤ q) : roundHalfEven p ≤ roundHalfEven q := by
  have hp : (p.floor : Rat) ≤ p := Rat.floor_le p
  have hp' : p < p.floor + 1 := by exact_mod_cast Rat.lt_floor_add_one p
  rcases (Rat.le_floor_iff.mpr (hp.trans h)).eq_or_lt with heq | hlt
  · unfold roundHalfEven
    grind
  · calc roundHalfEven p ≤ p.floor + 1 := roundHalfEven_le (by push_cast; exact hp'.le)
      _ ≤ q.floor := hlt
      _ ≤ roundHalfEven q := le_roundHalfEven (Rat.floor_le q)

/-- An odd integer is reached from above half a unit below it on, the tie left out. -/
theorem le_roundHalfEven_iff_of_odd {n : Int} (hn : n % 2 = 1) {q : Rat} :
    n ≤ roundHalfEven q ↔ (n : Rat) - 1 / 2 < q := by
  have hlow : (q.floor : Rat) ≤ q := Rat.floor_le q
  have hhigh : q < q.floor + 1 := by exact_mod_cast Rat.lt_floor_add_one q
  rcases lt_trichotomy n (q.floor + 1) with hlt | heq | hgt
  · have hle : (n : Rat) ≤ q.floor := by exact_mod_cast Int.lt_add_one_iff.mp hlt
    refine iff_of_true ?_ (by linarith)
    unfold roundHalfEven
    grind
  · have hq : (n : Rat) = q.floor + 1 := by exact_mod_cast heq
    unfold roundHalfEven
    grind
  · have hge : (q.floor : Rat) + 1 + 1 ≤ n := by exact_mod_cast Int.add_one_le_of_lt hgt
    refine iff_of_false ?_ (by linarith)
    unfold roundHalfEven
    grind

namespace Binary64
variable {p q : Rat} {m k : Int}

theorem gridExponent_mono (hp : 0 < p) (h : p ≤ q) : gridExponent p ≤ gridExponent q := by
  obtain ⟨hleast, -⟩ := gridExponent_spec (hp.trans_le h)
  obtain ⟨-, -, hfinest | hnormal⟩ := gridExponent_spec hp
  · rwa [hfinest]
  · have hpow : (0 : Rat) < 2 ^ gridExponent p := by positivity
    exact le_gridExponent (hp.trans_le h) (((le_div_iff₀ hpow).mp hnormal).trans h)

theorem gridded_mono (hp : 0 < p) (h : p ≤ q) : gridded p ≤ gridded q := by
  have hpos : (0 : Rat) < 2 ^ gridExponent p := by positivity
  have hpos' : (0 : Rat) < 2 ^ gridExponent q := by positivity
  rcases (gridExponent_mono hp h).eq_or_lt with heq | hlt
  · have hquotient := roundHalfEven_mono (div_le_div_of_nonneg_right h hpos.le)
    rw [gridded, gridded, ← heq]
    exact mul_le_mul_of_nonneg_right (by exact_mod_cast hquotient) hpos.le
  · -- The power of two where the coarser grid begins lies between the two.
    obtain ⟨hleast, hhigh, -⟩ := gridExponent_spec hp
    obtain ⟨-, -, hlow⟩ := gridExponent_spec (hp.trans_le h)
    have hbelow : roundHalfEven (p / 2 ^ gridExponent p) ≤ 2 * leastMantissa :=
      roundHalfEven_le (by push_cast; exact hhigh.le)
    have habove : (leastMantissa : Int) ≤ roundHalfEven (q / 2 ^ gridExponent q) :=
      le_roundHalfEven (by push_cast; exact hlow.resolve_left (by omega))
    have hgrid : (2 : Rat) ^ gridExponent p * 2 ≤ 2 ^ gridExponent q := by
      rw [← zpow_add_one₀ two_ne_zero]
      exact zpow_le_zpow_right₀ one_le_two hlt
    calc gridded p ≤ 2 * leastMantissa * 2 ^ gridExponent p :=
          mul_le_mul_of_nonneg_right (by exact_mod_cast hbelow) hpos.le
      _ = leastMantissa * (2 ^ gridExponent p * 2) := by ring
      _ ≤ leastMantissa * 2 ^ gridExponent q :=
          mul_le_mul_of_nonneg_left hgrid (Nat.cast_nonneg _)
      _ ≤ gridded q := mul_le_mul_of_nonneg_right (by exact_mod_cast habove) hpos'.le

theorem gridded_nonneg (hq : 0 ≤ q) : 0 ≤ gridded q := by
  have hnonneg : 0 ≤ roundHalfEven (q / 2 ^ gridExponent q) :=
    le_roundHalfEven (by push_cast; positivity)
  exact mul_nonneg (by exact_mod_cast hnonneg) (by positivity)

theorem toRat_round_eq {zeroNegative : Bool} (h : |q| < overflow) :
    (round zeroNegative q).isFinite = true ∧ (round zeroNegative q).toRat = rounded q := by
  have hfinite : (round zeroNegative q).isFinite = true := isFinite_round_iff.mpr h
  exact ⟨hfinite, toRat_round hfinite⟩

@[simp] theorem rounded_zero : rounded 0 = 0 := by
  rw [rounded, if_neg (lt_irrefl 0), gridded_zero]

theorem rounded_neg (q : Rat) : rounded (-q) = -rounded q := by
  rcases lt_trichotomy q 0 with hneg | rfl | hpos
  · rw [rounded, rounded, if_neg (by linarith), if_pos hneg, neg_neg]
  · rw [neg_zero, rounded_zero, neg_zero]
  · rw [rounded, rounded, if_pos (by linarith), if_neg (by linarith), neg_neg]

theorem rounded_mono (h : p ≤ q) : rounded p ≤ rounded q := by
  unfold rounded
  split
  · next hp =>
    split
    · next hq => exact neg_le_neg (gridded_mono (neg_pos.mpr hq) (neg_le_neg h))
    · next hq =>
      have hp' := gridded_nonneg (neg_nonneg.mpr hp.le)
      have hq' := gridded_nonneg (not_lt.mp hq)
      linarith
  · next hp =>
    rw [if_neg (by linarith)]
    rcases (not_lt.mp hp).eq_or_lt with rfl | hpos
    · rw [gridded_zero]
      exact gridded_nonneg h
    · exact gridded_mono hpos h

/-- The rational is a number of at most 53 binary digits, none of them behind the last place of the
format. -/
def IsRepresentable (q : Rat) : Prop :=
  ∃ m k : Int, q = m * 2 ^ k ∧ |m| < 2 * leastMantissa ∧ -1074 ≤ k

theorem exists_int_eq_two_zpow (hk : 0 ≤ k) : ∃ n : Int, (2 : Rat) ^ k = n :=
  ⟨2 ^ k.toNat, by rw [Int.cast_pow, Int.cast_ofNat, ← zpow_natCast, Int.toNat_of_nonneg hk]⟩

theorem IsRepresentable.neg (h : IsRepresentable q) : IsRepresentable (-q) := by
  obtain ⟨m, k, rfl, hm, hk⟩ := h
  exact ⟨-m, k, by push_cast; ring, by rwa [abs_neg], hk⟩

theorem isRepresentable_intCast (hm : |m| < 2 * leastMantissa) : IsRepresentable m :=
  ⟨m, 0, by rw [zpow_zero, mul_one], hm, by decide⟩

theorem isRepresentable_one : IsRepresentable 1 := by
  exact_mod_cast isRepresentable_intCast (m := 1) (by decide)

theorem isRepresentable_add_half {n : Int} (hn : |n| < leastMantissa) :
    IsRepresentable (n + 1 / 2) := by
  have hbound := abs_lt.mp hn
  refine ⟨2 * n + 1, -1, ?_, abs_lt.mpr ⟨by omega, by omega⟩, by decide⟩
  rw [zpow_neg_one]
  push_cast
  ring

theorem isRepresentable_half : IsRepresentable (1 / 2) := by
  simpa using isRepresentable_add_half (n := 0) (by decide)

theorem isRepresentable_toRat (x : Binary64) : IsRepresentable x.toRat := by
  cases x with
  | finite s m e h =>
    obtain ⟨hm, he, -⟩ := id h
    have hm' : (m : Int) < 2 * leastMantissa := by exact_mod_cast hm
    refine ⟨if s then -m else m, e, ?_, ?_, he⟩
    · cases s <;> simp [toRat]
    · cases s <;> simpa using hm'
  | _ => exact ⟨0, 0, by simp [toRat], by decide, by decide⟩

theorem IsRepresentable.rounded_eq (h : IsRepresentable q) : rounded q = q := by
  have hpositive : ∀ m k : Int, 0 < m → |m| < 2 * leastMantissa → -1074 ≤ k →
      rounded (m * 2 ^ k) = m * 2 ^ k := by
    intro m k hpos hm hk
    have hq : ¬(m : Rat) * 2 ^ k < 0 := (mul_pos (by exact_mod_cast hpos) (by positivity)).not_gt
    rw [rounded, if_neg hq, gridded_of_mul hpos ((le_abs_self m).trans_lt hm) hk]
  obtain ⟨m, k, rfl, hm, hk⟩ := h
  rcases lt_trichotomy m 0 with hneg | rfl | hpos
  · have hopposite : (m : Rat) * 2 ^ k = -(((-m : Int) : Rat) * 2 ^ k) := by push_cast; ring
    rw [hopposite, rounded_neg, hpositive (-m) k (by omega) (by rwa [abs_neg]) hk]
  · rw [Int.cast_zero, zero_mul, rounded_zero]
  · exact hpositive m k hpos hm hk

theorem IsRepresentable.le_rounded (hp : IsRepresentable p) (h : p ≤ q) : p ≤ rounded q :=
  hp.rounded_eq ▸ rounded_mono h

theorem IsRepresentable.rounded_le (hq : IsRepresentable q) (h : p ≤ q) : rounded p ≤ q :=
  hq.rounded_eq ▸ rounded_mono h

theorem IsRepresentable.abs_rounded_le (hp : IsRepresentable p) (h : |q| ≤ p) : |rounded q| ≤ p :=
  abs_le.mpr ⟨hp.neg.le_rounded (abs_le.mp h).1, hp.rounded_le (abs_le.mp h).2⟩

theorem IsRepresentable.le_toRat_round {zeroNegative : Bool} (hp : IsRepresentable p) (h : p ≤ q)
    (hfinite : (round zeroNegative q).isFinite = true) : p ≤ (round zeroNegative q).toRat :=
  toRat_round hfinite ▸ hp.le_rounded h

/-- A number of at most 53 binary digits is kept. -/
theorem toRat_round_mul {zeroNegative : Bool} (hm : |m| < 2 * leastMantissa) (hk : -1074 ≤ k)
    (htop : k ≤ topExponent) : (round zeroNegative (m * 2 ^ k)).isFinite = true ∧
      (round zeroNegative (m * 2 ^ k)).toRat = m * 2 ^ k := by
  have hpow : (0 : Rat) < 2 ^ k := by positivity
  have hfits : |(m : Rat) * 2 ^ k| < overflow := by
    have hm' : |(m : Rat)| ≤ 2 * leastMantissa - 1 := by
      exact_mod_cast Int.le_sub_one_of_lt hm
    have hk' : (2 : Rat) ^ k ≤ 2 ^ topExponent := zpow_le_zpow_right₀ one_le_two htop
    have htop' : (0 : Rat) < 2 ^ topExponent := by positivity
    rw [abs_mul, abs_of_pos hpow]
    calc |(m : Rat)| * 2 ^ k ≤ (2 * leastMantissa - 1) * 2 ^ topExponent :=
          mul_le_mul hm' hk' hpow.le ((abs_nonneg _).trans hm')
      _ < overflow := mul_lt_mul_of_pos_right (by linarith) htop'
  have hkept : IsRepresentable (m * 2 ^ k) := ⟨m, k, rfl, hm, hk⟩
  refine ⟨(toRat_round_eq hfits).1, ?_⟩
  rw [(toRat_round_eq hfits).2, hkept.rounded_eq]

/-! ## Where a number is reached -/

section Reached
variable (hlow : leastMantissa < m) (hhigh : m ≤ 2 * leastMantissa) (hk : -1074 ≤ k)
include hlow hhigh hk

theorem isRepresentable_of_mantissa : IsRepresentable (m * 2 ^ k) := by
  rcases hhigh.lt_or_eq with hlt | rfl
  · exact ⟨m, k, rfl, abs_lt.mpr ⟨by omega, hlt⟩, hk⟩
  · refine ⟨leastMantissa, k + 1, ?_, by decide, by omega⟩
    rw [zpow_add_one₀ two_ne_zero]
    push_cast
    ring

/-- A number of 53 binary digits is reached exactly if its mantissa is, on the grid below it. -/
theorem le_rounded_iff : (m : Rat) * 2 ^ k ≤ rounded q ↔ m ≤ roundHalfEven (q / 2 ^ k) := by
  have hpow : (0 : Rat) < 2 ^ k := by positivity
  have hleast : (leastMantissa : Rat) ≤ (m - 1 : Int) := by exact_mod_cast Int.le_sub_one_of_lt hlow
  have hbelow : IsRepresentable (((m - 1 : Int) : Rat) * 2 ^ k) :=
    ⟨m - 1, k, rfl, abs_lt.mpr ⟨by omega, by omega⟩, hk⟩
  have hgap : ((m - 1 : Int) : Rat) * 2 ^ k < m * 2 ^ k :=
    mul_lt_mul_of_pos_right (by push_cast; linarith) hpow
  rcases le_or_gt ((m : Rat) * 2 ^ k) q with habove | hlt
  · refine iff_of_true ((isRepresentable_of_mantissa hlow hhigh hk).le_rounded habove) ?_
    exact le_roundHalfEven ((le_div_iff₀ hpow).mpr habove)
  rcases le_or_gt q (((m - 1 : Int) : Rat) * 2 ^ k) with hle | hgt
  · refine iff_of_false (not_le.mpr ((hbelow.rounded_le hle).trans_lt hgap)) (not_le.mpr ?_)
    exact Int.lt_of_le_sub_one (roundHalfEven_le ((div_le_iff₀ hpow).mpr hle))
  · -- In between the grid is that of the number.
    have hpos : 0 < q := lt_of_le_of_lt (mul_nonneg ((Nat.cast_nonneg _).trans hleast) hpow.le) hgt
    have hhigh' : (m : Rat) ≤ 2 * leastMantissa := by exact_mod_cast hhigh
    have hgrid : gridExponent q = k := le_antisymm
      (gridExponent_le hpos hk (hlt.trans_le (mul_le_mul_of_nonneg_right hhigh' hpow.le)))
      (le_gridExponent hpos ((mul_le_mul_of_nonneg_right hleast hpow.le).trans hgt.le))
    rw [rounded, if_neg hpos.not_gt, gridded, hgrid, mul_le_mul_iff_left₀ hpow]
    exact_mod_cast Iff.rfl

theorem le_rounded_iff_of_even (heven : m % 2 = 0) :
    (m : Rat) * 2 ^ k ≤ rounded q ↔ (m - 1 / 2) * 2 ^ k ≤ q := by
  have hpow : (0 : Rat) < 2 ^ k := by positivity
  rw [le_rounded_iff hlow hhigh hk, le_roundHalfEven_iff heven, le_div_iff₀ hpow]

theorem le_rounded_iff_of_odd (hodd : m % 2 = 1) :
    (m : Rat) * 2 ^ k ≤ rounded q ↔ (m - 1 / 2) * 2 ^ k < q := by
  have hpow : (0 : Rat) < 2 ^ k := by positivity
  rw [le_rounded_iff hlow hhigh hk, le_roundHalfEven_iff_of_odd hodd, lt_div_iff₀ hpow]

end Reached

/-! ## Operations -/

section Operations
variable {x y : Binary64} (hx : x.isFinite = true) (hy : y.isFinite = true)
include hx hy

theorem exists_add_eq_round : ∃ s, x.add y = round s (x.toRat + y.toRat) := by
  cases x with
  | finite s m e hc =>
    cases y with
    | finite t n f hc' => exact ⟨_, rfl⟩
    | _ => cases hy
  | _ => cases hx

theorem exists_mul_eq_round : ∃ s, x.mul y = round s (x.toRat * y.toRat) := by
  cases x with
  | finite s m e hc =>
    cases y with
    | finite t n f hc' => exact ⟨_, rfl⟩
    | _ => cases hy
  | _ => cases hx

theorem exists_div_eq_round : ∃ s, x.div y = round s (x.toRat / y.toRat) := by
  cases x with
  | finite s m e hc =>
    cases y with
    | finite t n f hc' => exact ⟨_, rfl⟩
    | _ => cases hy
  | _ => cases hx

theorem toRat_add (h : |x.toRat + y.toRat| < overflow) :
    (x.add y).isFinite = true ∧ (x.add y).toRat = rounded (x.toRat + y.toRat) := by
  obtain ⟨s, hs⟩ := exists_add_eq_round hx hy
  exact hs ▸ toRat_round_eq h

theorem toRat_mul (h : |x.toRat * y.toRat| < overflow) :
    (x.mul y).isFinite = true ∧ (x.mul y).toRat = rounded (x.toRat * y.toRat) := by
  obtain ⟨s, hs⟩ := exists_mul_eq_round hx hy
  exact hs ▸ toRat_round_eq h

end Operations

end Binary64
end LabelPress
