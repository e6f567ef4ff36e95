import LabelPress.Proofs.Binary64.Rounding

/-!
# The shortest decimal of a number

The rationals of a basin round to its number, so any decimal in the basin stands for it. On a grid
of seventeen digits the two decimals around a number are closer to each other than the ends of its
basin, and one of them lies in it: so the search for the shortest decimal never fails.
-/

namespace LabelPress

namespace Decimal
variable {n k : Nat}

theorem width_pos (n : Nat) : 0 < width n := Nat.length_toDigits_pos

theorem width_le_iff (hk : 0 < k) : width n ≤ k ↔ n < 10 ^ k :=
  Nat.length_toDigits_le_iff (by decide) hk

theorem lt_pow_width (n : Nat) : n < 10 ^ width n := (width_le_iff (width_pos n)).mp le_rfl

theorem pow_le_of_width (hn : n ≠ 0) : 10 ^ (width n - 1) ≤ n := by
  by_contra hlt
  rcases Nat.eq_zero_or_pos (width n - 1) with hzero | hpos
  · rw [hzero, pow_zero] at hlt
    omega
  · have hle := (width_le_iff hpos).mpr (not_le.mp hlt)
    have hwidth := width_pos n
    omega

theorem exists_width (hn : n ≠ 0) :
    ∃ a, width n = a + 1 ∧ (10 : Rat) ^ a ≤ n ∧ (n : Rat) < 10 ^ (a + 1) := by
  have hwidth := Nat.sub_add_cancel (width_pos n)
  refine ⟨width n - 1, hwidth.symm, ?_, ?_⟩
  · exact_mod_cast pow_le_of_width hn
  · rw [hwidth]
    exact_mod_cast lt_pow_width n

/-- The digits before the point tell the magnitude of a decimal. -/
theorem toRat_bounds {d : Decimal} (hd : d.digits ≠ 0) :
    (10 : Rat) ^ (d.exponent + width d.digits - 1) ≤ d.toRat ∧
      d.toRat < (10 : Rat) ^ (d.exponent + width d.digits) := by
  obtain ⟨digits, exponent⟩ := d
  have hpow : (0 : Rat) < 10 ^ exponent := by positivity
  have hten : (10 : Rat) ≠ 0 := by norm_num
  have hsplit : exponent + width digits - 1 = ((width digits - 1 : Nat) : Int) + exponent := by
    have hwidth := width_pos digits
    omega
  constructor
  · rw [hsplit, zpow_add₀ hten, zpow_natCast]
    exact mul_le_mul_of_nonneg_right (by exact_mod_cast pow_le_of_width hd) hpow.le
  · rw [add_comm exponent, zpow_add₀ hten, zpow_natCast]
    exact mul_lt_mul_of_pos_right (by exact_mod_cast lt_pow_width digits) hpow

theorem toRat_dropZeros (fuel : Nat) (d : Decimal) : (dropZeros fuel d).toRat = d.toRat := by
  induction fuel generalizing d with
  | zero => rfl
  | succ fuel ih =>
    unfold dropZeros
    split
    · next h =>
      have hdigits : (d.digits : Rat) = (d.digits / 10 : Nat) * 10 := by
        exact_mod_cast (Nat.div_mul_cancel (Nat.dvd_of_mod_eq_zero h.2)).symm
      rw [ih, toRat, toRat, hdigits, zpow_add_one₀ (by norm_num)]
      ring
    · rfl

end Decimal

namespace Binary64
variable {m : Nat} {e : Int} {q r : Rat}

/-! ## Basins -/

/-- What lies within half a unit of an integer is rounded to it; at the very half the integer has to
be even. -/
theorem roundHalfEven_eq {n : Int} (hlow : (n : Rat) - 1 / 2 ≤ q) (hhigh : q ≤ n + 1 / 2)
    (hodd : n % 2 ≠ 0 → (n : Rat) - 1 / 2 < q ∧ q < n + 1 / 2) : roundHalfEven q = n := by
  have hfloor : (q.floor : Rat) ≤ q := Rat.floor_le q
  have hceil : q < q.floor + 1 := by exact_mod_cast Rat.lt_floor_add_one q
  have hle : q.floor < n + 1 := by
    have hlt : (q.floor : Rat) < ((n + 1 : Int) : Rat) := by
      push_cast
      linarith
    exact_mod_cast hlt
  have hge : n - 1 < q.floor + 1 := by
    have hlt : ((n - 1 : Int) : Rat) < ((q.floor + 1 : Int) : Rat) := by
      push_cast
      linarith
    exact_mod_cast hlt
  obtain hn | hn : q.floor = n ∨ q.floor = n - 1 := by omega
  · unfold roundHalfEven
    grind
  · have hn' : (q.floor : Rat) = n - 1 := by
      rw [hn]
      push_cast
      rfl
    unfold roundHalfEven
    grind

theorem Basin.bounds_of_contains {b : Basin} (h : b.contains r = true) :
    b.low ≤ r ∧ r ≤ b.high ∧ (b.closed = false → b.low < r ∧ r < b.high) := by
  unfold contains at h
  cases hclosed : b.closed with
  | true =>
    simp only [hclosed, if_true, Bool.and_eq_true, decide_eq_true_eq] at h
    exact ⟨h.1, h.2, nofun⟩
  | false =>
    simp only [hclosed, Bool.false_eq_true, if_false, Bool.and_eq_true, decide_eq_true_eq] at h
    exact ⟨h.1.le, h.2.le, fun _ => h⟩

theorem Basin.contains_of_lt {b : Basin} (hlow : b.low < r) (hhigh : r < b.high) :
    b.contains r = true := by
  unfold contains
  split
  · exact Bool.and_eq_true_iff.mpr ⟨decide_eq_true hlow.le, decide_eq_true hhigh.le⟩
  · exact Bool.and_eq_true_iff.mpr ⟨decide_eq_true hlow, decide_eq_true hhigh⟩

theorem basin_low_ge (m : Nat) (e : Int) : ((m : Rat) - 1 / 2) * 2 ^ e ≤ (basin m e).low := by
  have hpow : (0 : Rat) < 2 ^ e := by positivity
  refine mul_le_mul_of_nonneg_right (sub_le_sub_left ?_ _) hpow.le
  split <;> norm_num

/-- What a basin says about the rationals in it, on the grid of its number. -/
theorem within_half_of_contains (h : (basin m e).contains r = true) :
    (m : Rat) - 1 / 2 ≤ r / 2 ^ e ∧ r / 2 ^ e ≤ m + 1 / 2 ∧
      (m % 2 ≠ 0 → (m : Rat) - 1 / 2 < r / 2 ^ e ∧ r / 2 ^ e < m + 1 / 2) := by
  have hpow : (0 : Rat) < 2 ^ e := by positivity
  obtain ⟨hlow, hhigh, hopen⟩ := Basin.bounds_of_contains h
  have hbelow := basin_low_ge m e
  rw [le_div_iff₀ hpow, div_le_iff₀ hpow, lt_div_iff₀ hpow, div_lt_iff₀ hpow]
  refine ⟨hbelow.trans hlow, hhigh, fun hodd => ?_⟩
  obtain ⟨hlow', hhigh'⟩ := hopen (beq_eq_false_iff_ne.mpr hodd)
  exact ⟨hbelow.trans_lt hlow', hhigh'⟩

theorem nearest_of_grid {negative : Bool} (hcanonical : Canonical m e) (he : gridExponent r = e)
    (hm : roundHalfEven (r / 2 ^ e) = m) :
    nearest negative r = .finite negative m e hcanonical := by
  subst he
  simp only [nearest, hm, Int.toNat_natCast, dif_pos hcanonical]

/-- Below a power of two the grid is finer. A rational there is rounded up to the power if no more
than half of the finer unit lies between them. -/
theorem nearest_of_finer_grid {negative : Bool} (hcanonical : Canonical leastMantissa e)
    (hne : e ≠ -1074)
    (hlow : (2 * leastMantissa - 1 / 2) * (2 : Rat) ^ (e - 1) ≤ r)
    (hhigh : r < 2 * leastMantissa * (2 : Rat) ^ (e - 1)) :
    nearest negative r = .finite negative leastMantissa e hcanonical := by
  obtain ⟨-, hexp, -⟩ := id hcanonical
  have hpow : (0 : Rat) < 2 ^ (e - 1) := by positivity
  have hleast : (1 : Rat) ≤ leastMantissa := by norm_num [leastMantissa]
  have hr : 0 < r := lt_of_lt_of_le (mul_pos (by linarith) hpow) hlow
  have hgrid : gridExponent r = e - 1 := by
    refine le_antisymm (gridExponent_le hr (by omega) hhigh) (le_gridExponent hr ?_)
    exact le_trans (mul_le_mul_of_nonneg_right (by linarith) hpow.le) hlow
  have hround : roundHalfEven (r / 2 ^ (e - 1)) = (2 * leastMantissa : Nat) := by
    refine roundHalfEven_eq ?_ ?_ (fun hodd => absurd rfl hodd)
    · push_cast
      exact (le_div_iff₀ hpow).mpr hlow
    · push_cast
      linarith [(div_lt_iff₀ hpow).mpr hhigh]
  have hfull : ¬Canonical (2 * leastMantissa) (e - 1) := fun h => lt_irrefl _ h.1
  have hhalf : 2 * leastMantissa / 2 = leastMantissa := rfl
  simp only [nearest, hgrid, hround, Int.toNat_natCast, dif_neg hfull, hhalf, sub_add_cancel,
    dif_pos hcanonical]

/-- The rationals of a basin are rounded to its number. -/
theorem nearest_of_contains (negative : Bool) (hcanonical : Canonical m e) (hm : m ≠ 0)
    (h : (basin m e).contains r = true) :
    nearest negative r = .finite negative m e hcanonical := by
  obtain ⟨hlow, hhigh, hodd⟩ := within_half_of_contains h
  have hpow : (0 : Rat) < 2 ^ e := by positivity
  have hm' : (1 : Rat) ≤ m := by exact_mod_cast Nat.one_le_iff_ne_zero.mpr hm
  have hr : 0 < r := by
    have hpos : 0 < r / 2 ^ e := by linarith
    exact (div_pos_iff_of_pos_right hpow).mp hpos
  have hround : roundHalfEven (r / 2 ^ e) = m := by
    refine roundHalfEven_eq ?_ ?_ ?_
    · push_cast
      exact hlow
    · push_cast
      exact hhigh
    · intro hne
      push_cast
      exact hodd (by omega)
  obtain ⟨hbound, hexp, htop, hnormal⟩ := id hcanonical
  have hbound' : (m : Rat) + 1 ≤ 2 * leastMantissa := by exact_mod_cast hbound
  by_cases hgrid : leastMantissa * (2 : Rat) ^ e ≤ r ∨ e = -1074
  · refine nearest_of_grid hcanonical (le_antisymm ?_ ?_) hround
    · refine gridExponent_le hr hexp ?_
      rw [← div_lt_iff₀ hpow]
      linarith
    · rcases hgrid with hle | rfl
      · exact le_gridExponent hr hle
      · exact (gridExponent_spec hr).1
  · -- Below a power of two the grid is finer, and the basin reaches down only half as far.
    obtain ⟨hlt, hne⟩ := not_or.mp hgrid
    have hfine : (2 : Rat) ^ e = 2 ^ (e - 1) * 2 := by
      rw [← zpow_add_one₀ two_ne_zero, sub_add_cancel]
    obtain rfl : m = leastMantissa := by
      have hlt' : (m : Rat) < leastMantissa + 1 := by
        have hlt'' := (div_lt_iff₀ hpow).mpr (not_le.mp hlt)
        linarith
      have hlt'' : m < leastMantissa + 1 := by exact_mod_cast hlt'
      have hge := hnormal.resolve_right hne
      omega
    refine nearest_of_finer_grid hcanonical hne ?_ ?_
    · have hlow' := (Basin.bounds_of_contains h).1
      rw [basin, if_pos ⟨rfl, hne⟩, hfine] at hlow'
      linarith
    · rw [hfine] at hlt
      linarith [not_le.mp hlt]

/-! ## Decimals in a basin -/

theorem pos_of_contains (hm : m ≠ 0) (h : (basin m e).contains r = true) :
    1 / 2 * (2 : Rat) ^ e ≤ r := by
  have hm' : (1 : Rat) ≤ m := by exact_mod_cast Nat.one_le_iff_ne_zero.mpr hm
  have hpow : (0 : Rat) < 2 ^ e := by positivity
  rw [← le_div_iff₀ hpow]
  linarith [(within_half_of_contains h).1]

theorem digits_ne_zero_of_contains {d : Decimal} (hm : m ≠ 0)
    (h : (basin m e).contains d.toRat = true) : d.digits ≠ 0 := by
  intro hzero
  have hpow : (0 : Rat) < 2 ^ e := by positivity
  have hpos := pos_of_contains hm h
  rw [Decimal.toRat, hzero, Nat.cast_zero, zero_mul] at hpos
  linarith

/-- A decimal in the basin of a number stands for it: the shortcuts of the conversion are only taken
for magnitudes that no number has. -/
theorem ofDecimal_of_contains (negative : Bool) {d : Decimal} (hcanonical : Canonical m e)
    (hm : m ≠ 0) (h : (basin m e).contains d.toRat = true) :
    ofDecimal negative d = .finite negative m e hcanonical := by
  have hdigits := digits_ne_zero_of_contains hm h
  obtain ⟨hlow, hhigh⟩ := Decimal.toRat_bounds hdigits
  have hpow : (0 : Rat) < 2 ^ e := by positivity
  have hten : (1 : Rat) < 10 := by norm_num
  obtain ⟨hbound, hexp, htop, -⟩ := id hcanonical
  have hbound' : (m : Rat) + 1 ≤ 2 * leastMantissa := by exact_mod_cast hbound
  have hlarge : ¬310 < d.exponent + Decimal.width d.digits := by
    have hless : d.toRat < 10 ^ (309 : Int) := by
      have hle := (within_half_of_contains h).2.1
      rw [div_le_iff₀ hpow] at hle
      calc d.toRat ≤ (m + 1 / 2) * 2 ^ e := hle
        _ ≤ 2 * leastMantissa * 2 ^ e := mul_le_mul_of_nonneg_right (by linarith) hpow.le
        _ ≤ 2 * leastMantissa * 2 ^ (971 : Int) :=
          mul_le_mul_of_nonneg_left (zpow_le_zpow_right₀ one_le_two htop) (by positivity)
        _ < 10 ^ (309 : Int) := by decide +kernel
    have hpoint := (zpow_lt_zpow_iff_right₀ hten).mp (hlow.trans_lt hless)
    omega
  have hsmall : ¬d.exponent + Decimal.width d.digits < -330 := by
    have hmore : (10 : Rat) ^ (-330 : Int) < d.toRat := by
      calc (10 : Rat) ^ (-330 : Int) < 1 / 2 * 2 ^ (-1074 : Int) := by decide +kernel
        _ ≤ 1 / 2 * 2 ^ e :=
          mul_le_mul_of_nonneg_left (zpow_le_zpow_right₀ one_le_two hexp) (by norm_num)
        _ ≤ d.toRat := pos_of_contains hm h
    have hpoint := (zpow_lt_zpow_iff_right₀ hten).mp (hmore.trans hhigh)
    omega
  simp only [ofDecimal, if_neg hdigits, if_neg hlarge, if_neg hsmall]
  exact nearest_of_contains negative hcanonical hm h

theorem ofDecimal_zero (negative : Bool) {d : Decimal} (h : d.digits = 0) :
    ofDecimal negative d = zero negative := by
  simp only [ofDecimal, if_pos h]

/-! ## The search -/

theorem decimalPoint_spec (hq : 0 < q) :
    (10 : Rat) ^ (decimalPoint q - 1) ≤ q ∧ q < (10 : Rat) ^ decimalPoint q := by
  have hten : (10 : Rat) ≠ 0 := by norm_num
  have hpos : 0 < q.num := Rat.num_pos.mpr hq
  have hnum : (q.num.natAbs : Rat) = q * q.den := by
    have habs : (q.num.natAbs : Int) = q.num := by omega
    rw [← Int.cast_natCast, habs, Rat.mul_den_eq_num]
  have hden : (0 : Rat) < q.den := by exact_mod_cast q.den_pos
  have hn : q.num.natAbs ≠ 0 := by omega
  obtain ⟨a, ha, hn₁, hn₂⟩ := Decimal.exists_width hn
  obtain ⟨b, hb, hd₁, hd₂⟩ := Decimal.exists_width q.den_nz
  rw [hnum] at hn₁ hn₂
  have hpowb : (0 : Rat) < 10 ^ b := by positivity
  have hupper : q < (10 : Rat) ^ ((a : Int) - b + 1) := by
    rw [zpow_add_one₀ hten, zpow_sub₀ hten, zpow_natCast, zpow_natCast, div_mul_eq_mul_div,
      lt_div_iff₀ hpowb, ← pow_succ]
    exact lt_of_le_of_lt (mul_le_mul_of_nonneg_left hd₁ hq.le) hn₂
  have hlower : (10 : Rat) ^ ((a : Int) - b - 1) ≤ q := by
    rw [sub_sub, zpow_sub₀ hten, zpow_natCast, div_le_iff₀ (by positivity)]
    have hmul := mul_lt_mul_of_pos_left hd₂ hq
    exact_mod_cast hn₁.trans hmul.le
  have hp : (Decimal.width q.num.natAbs : Int) - Decimal.width q.den = a - b := by
    rw [ha, hb]
    omega
  simp only [decimalPoint, hp]
  split
  · next hlt => exact ⟨hlower, hlt⟩
  · next hge =>
    rw [add_sub_cancel_right]
    exact ⟨not_lt.mp hge, hupper⟩

section Grid
variable {b : Basin} {point : Int} {n : Nat} {d : Decimal}

def below (q : Rat) (point : Int) (n : Nat) : Decimal :=
  ⟨(q / (10 : Rat) ^ (point - n)).floor.toNat, point - n⟩

def above (q : Rat) (point : Int) (n : Nat) : Decimal :=
  ⟨(q / (10 : Rat) ^ (point - n)).floor.toNat + 1, point - n⟩

theorem around (hq : 0 < q) (point : Int) (n : Nat) :
    (below q point n).toRat ≤ q ∧ q < (above q point n).toRat ∧
      (above q point n).toRat = (below q point n).toRat + 10 ^ (point - n) := by
  obtain ⟨s, hs⟩ : ∃ s : Rat, (10 : Rat) ^ (point - n) = s := ⟨_, rfl⟩
  have hspos : 0 < s := hs ▸ by positivity
  obtain ⟨k, hk⟩ : ∃ k, (q / s).floor.toNat = k := ⟨_, rfl⟩
  have hk' : (k : Rat) = (q / s).floor := by
    rw [← hk]
    exact_mod_cast Int.toNat_of_nonneg (Rat.le_floor_iff.mpr (by push_cast; positivity))
  simp only [below, above, Decimal.toRat, hs, hk]
  refine ⟨?_, ?_, ?_⟩
  · rw [← le_div_iff₀ hspos, hk']
    exact Rat.floor_le _
  · rw [← div_lt_iff₀ hspos]
    push_cast
    rw [hk']
    exact_mod_cast Rat.lt_floor_add_one _
  · push_cast
    ring

/-- A grid has a hit exactly if one of the two decimals around `q` is one. -/
theorem onGrid_cases (b : Basin) (q : Rat) (point : Int) (n : Nat) :
    (onGrid b q point n = none ∧ b.contains (below q point n).toRat = false ∧
      b.contains (above q point n).toRat = false) ∨
    ∃ d, onGrid b q point n = some d ∧ b.contains d.toRat = true := by
  unfold onGrid
  cases hbelow : b.contains (below q point n).toRat <;>
    cases habove : b.contains (above q point n).toRat <;>
    simp only [below, above] at hbelow habove <;>
    simp only [hbelow, habove, Bool.false_eq_true, if_false, if_true]
  · exact Or.inl ⟨trivial, trivial, trivial⟩
  · exact Or.inr ⟨_, rfl, habove⟩
  · exact Or.inr ⟨_, rfl, hbelow⟩
  · right
    split_ifs
    · exact ⟨_, rfl, hbelow⟩
    · exact ⟨_, rfl, habove⟩
    · exact ⟨_, rfl, hbelow⟩
    · exact ⟨_, rfl, habove⟩

/-- The search ends with a hit if one of its grids has one. -/
theorem exists_firstOnGrid {fuel : Nat} (h : ∃ k < fuel, onGrid b q point (n + k) ≠ none) :
    ∃ d, firstOnGrid b q point fuel n = some d ∧ b.contains d.toRat = true := by
  induction fuel generalizing n with
  | zero =>
    obtain ⟨k, hk, -⟩ := h
    omega
  | succ fuel ih =>
    unfold firstOnGrid
    rcases onGrid_cases b q point n with ⟨hnone, -⟩ | ⟨d, hd, hcontains⟩
    · obtain ⟨k, hk, hhit⟩ := h
      cases k with
      | zero => exact absurd hnone hhit
      | succ k =>
        rw [hnone]
        exact ih ⟨k, by omega, by rwa [add_right_comm, add_assoc]⟩
    · rw [hd]
      exact ⟨d, rfl, hcontains⟩

end Grid

theorem mem_basin (m : Nat) (e : Int) :
    (basin m e).low < m * 2 ^ e ∧ (m : Rat) * 2 ^ e < (basin m e).high := by
  have hpow : (0 : Rat) < 2 ^ e := by positivity
  refine ⟨mul_lt_mul_of_pos_right (sub_lt_self _ ?_) hpow,
    mul_lt_mul_of_pos_right (lt_add_of_pos_right _ (by norm_num)) hpow⟩
  split <;> norm_num

/-- A basin is wider than the spacing of the decimals of seventeen digits. -/
theorem spacing_lt_width (hbound : m < 2 * leastMantissa) :
    (m : Rat) * 2 ^ e / 10 ^ 16 < (basin m e).high - (basin m e).low := by
  have hpow : (0 : Rat) < 2 ^ e := by positivity
  have hbound' : (m : Rat) < 2 * leastMantissa := by exact_mod_cast hbound
  have hleast : (leastMantissa : Rat) = 4503599627370496 := rfl
  have hscaled : (m : Rat) / 10 ^ 16 <
      1 / 2 + (if m = leastMantissa ∧ e ≠ -1074 then 1 / 4 else 1 / 2) := by
    rw [hleast] at hbound'
    split
    · next h =>
      rw [h.1, hleast]
      norm_num
    · linarith
  have hmul := mul_lt_mul_of_pos_right hscaled hpow
  simp only [basin]
  linarith

/-- On a grid of seventeen digits one of the decimals around a number lies in its basin. -/
theorem onGrid_seventeen (hbound : m < 2 * leastMantissa) (hm : m ≠ 0) :
    onGrid (basin m e) (m * 2 ^ e) (decimalPoint (m * 2 ^ e)) 17 ≠ none := by
  intro hnone
  obtain ⟨q, hq⟩ : ∃ q : Rat, (m : Rat) * 2 ^ e = q := ⟨_, rfl⟩
  have hwidth := spacing_lt_width (e := e) hbound
  obtain ⟨hlow', hhigh⟩ := mem_basin m e
  rw [hq] at hnone hwidth hlow' hhigh
  have hpow : (0 : Rat) < 2 ^ e := by positivity
  have hpos : 0 < q := hq ▸ mul_pos (by exact_mod_cast Nat.pos_of_ne_zero hm) hpow
  rcases onGrid_cases (basin m e) q (decimalPoint q) 17 with ⟨-, hbelow, habove⟩ | ⟨d, hd, -⟩
  · obtain ⟨hle, hlt, hstep⟩ := around hpos (decimalPoint q) 17
    have hspacing : (10 : Rat) ^ (decimalPoint q - (17 : Nat)) ≤ q / 10 ^ 16 := by
      rw [le_div_iff₀ (by norm_num)]
      calc (10 : Rat) ^ (decimalPoint q - (17 : Nat)) * 10 ^ 16 = 10 ^ (decimalPoint q - 1) := by
            rw [← zpow_natCast, ← zpow_add₀ (by norm_num)]
            congr 1
            push_cast
            ring
        _ ≤ q := (decimalPoint_spec hpos).1
    have hlow : (below q (decimalPoint q) 17).toRat ≤ (basin m e).low := by
      by_contra hinside
      rw [Basin.contains_of_lt (not_le.mp hinside) (hle.trans_lt hhigh)] at hbelow
      cases hbelow
    have hhigh' : (basin m e).high ≤ (above q (decimalPoint q) 17).toRat := by
      by_contra hinside
      rw [Basin.contains_of_lt (hlow'.trans hlt) (not_le.mp hinside)] at habove
      cases habove
    have hspan := (sub_le_sub hhigh' hlow).trans (sub_le_iff_le_add'.mpr hstep.le)
    exact absurd (hspan.trans hspacing) (not_le.mpr hwidth)
  · rw [hd] at hnone
    cases hnone

/-- The shortest decimal of a number lies in its basin. -/
theorem shortest_spec (hbound : m < 2 * leastMantissa) (hm : m ≠ 0) :
    (basin m e).contains (shortest m e).toRat = true := by
  have hhit : ∃ k < 17,
      onGrid (basin m e) (m * 2 ^ e) (decimalPoint (m * 2 ^ e)) (1 + k) ≠ none :=
    ⟨16, by omega, onGrid_seventeen hbound hm⟩
  obtain ⟨d, hd, hcontains⟩ := exists_firstOnGrid hhit
  simp only [shortest, if_neg hm, hd, Option.getD_some, Decimal.toRat_dropZeros, hcontains]

/-- A decimal of the same value as the shortest one reads back as the number. -/
theorem ofDecimal_of_toRat_eq (negative : Bool) {d : Decimal} (hcanonical : Canonical m e)
    (hd : d.toRat = (shortest m e).toRat) :
    ofDecimal negative d = .finite negative m e hcanonical := by
  by_cases hm : m = 0
  · subst hm
    obtain ⟨-, -, -, hnormal⟩ := id hcanonical
    have hexp : e = -1074 := hnormal.resolve_left (by decide)
    have hzero : d.digits = 0 := by
      have hpow : (10 : Rat) ^ d.exponent ≠ 0 := by positivity
      have hrat : (d.digits : Rat) * 10 ^ d.exponent = 0 := by
        rw [← Decimal.toRat, hd]
        simp [shortest, Decimal.toRat]
      exact_mod_cast (mul_eq_zero.mp hrat).resolve_right hpow
    subst hexp
    exact ofDecimal_zero negative hzero
  · refine ofDecimal_of_contains negative hcanonical hm ?_
    rw [hd]
    exact shortest_spec hcanonical.1 hm

end Binary64
end LabelPress
