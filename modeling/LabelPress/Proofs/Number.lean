import LabelPress.Proofs.Binary64.Order
import LabelPress.Proofs.Journal

/-!
# Numbers that can be rounded to whole dots

A number is rounded by adding one half to the binary64 number nearest to it. That succeeds exactly
for the finite numbers and the integers below the overflow, and the whole dots that come out can be
rounded again and written. Integers that are not large are their own dots, and from one half on
there is a dot.
-/

namespace LabelPress
namespace Binary64

theorem half_eq : half = .finite false leastMantissa (-53) (by decide) := by
  decide +kernel

theorem isFinite_add_half (x : Binary64) : (x.add half).isFinite = x.isFinite := by
  rw [half_eq]
  cases x with
  | nan p => rfl
  | infinity s => rfl
  | finite s m e h =>
    have hhalf : toRat (.finite false leastMantissa (-53) (by decide)) = 1 / 2 := by
      decide +kernel
    have hx := abs_toRat_add_one_lt (.finite s m e h)
    refine isFinite_round_iff.mpr ?_
    rw [hhalf]
    calc _ ≤ |toRat (.finite s m e h)| + |1 / 2| := abs_add_le _ _
      _ < overflow := by
        rw [abs_of_pos (by norm_num : (0 : Rat) < 1 / 2)]
        linarith

theorem round_ne_nan (zeroNegative : Bool) (q : Rat) (payload : Nat) :
    round zeroNegative q ≠ .nan payload := by
  have hnearest : ∀ s p, nearest s p ≠ .nan payload := by
    intro s p h
    unfold nearest at h
    dsimp only at h
    split_ifs at h
  intro h
  unfold round at h
  split_ifs at h
  · cases h
  · exact hnearest _ _ h
  · exact hnearest _ _ h

theorem toInteger_eq_ok {pick : Rat → Int} {x : Binary64} {n : Int} :
    x.toInteger pick = .ok n ↔ x.isFinite = true ∧ n = pick x.toRat := by
  cases x with
  | nan p => simp [toInteger, isFinite]
  | infinity s => simp [toInteger, isFinite]
  | finite s m e h => simp [toInteger, isFinite, eq_comm]

theorem overflow_le_digits : overflow ≤ ((Nat.pow 10 digitLimit : Nat) : Rat) := by
  decide +kernel

end Binary64

theorem integerText_eq_ok {n : Int} {s : String} :
    integerText n = .ok s ↔ hasIntegerText n = true ∧ toString n = s := by
  unfold integerText
  split
  · next h => simp [h]
  · next h => simp [h]

theorem hasIntegerText_of_lt_overflow {n : Int} (h : |(n : Rat)| < Binary64.overflow) :
    hasIntegerText n = true := by
  have hlt := h.trans_le Binary64.overflow_le_digits
  rw [← Int.cast_abs, Int.abs_eq_natAbs, Int.cast_natCast] at hlt
  exact decide_eq_true (Nat.cast_lt.mp hlt)

namespace Number
open Binary64 (overflow)

/-- What can be rounded to whole dots: the integers that do not overflow and the finite binary64
numbers. -/
def IsBounded : Number → Prop
  | int n => |(n : Rat)| < overflow
  | real x => x.isFinite = true

instance (x : Number) : Decidable x.IsBounded := by
  cases x <;> unfold IsBounded <;> infer_instance

theorem isBounded_iff_toReal {x : Number} :
    x.IsBounded ↔ ∃ y, x.toReal = .ok y ∧ y.isFinite = true := by
  cases x with
  | real x => simp [IsBounded, toReal]
  | int n =>
    have hround : (Binary64.ofInt n).isFinite = true ↔ |(n : Rat)| < overflow :=
      Binary64.isFinite_round_iff
    rw [IsBounded, ← hround]
    simp only [toReal]
    obtain ⟨y, hy⟩ : ∃ y, Binary64.ofInt n = y := ⟨_, rfl⟩
    rw [hy]
    cases y with
    | infinity s => simp [Binary64.isFinite]
    | _ => simp

/-- What has a binary64 number: all numbers but the integers that overflow. -/
def HasReal : Number → Prop
  | int n => (int n).IsBounded
  | real _ => True

theorem exists_toReal_iff {x : Number} : (∃ y, x.toReal = .ok y) ↔ x.HasReal := by
  cases x with
  | real x => exact iff_of_true ⟨x, rfl⟩ trivial
  | int n =>
    rw [HasReal, isBounded_iff_toReal]
    constructor
    · rintro ⟨y, hy⟩
      refine ⟨y, hy, ?_⟩
      simp only [toReal] at hy
      cases hround : Binary64.ofInt n with
      | nan p => exact absurd hround (Binary64.round_ne_nan _ _ p)
      | infinity s =>
        rw [hround] at hy
        cases hy
      | finite s m e h =>
        rw [hround] at hy
        cases hy
        rfl
    · rintro ⟨y, hy, -⟩
      exact ⟨y, hy⟩

/-- Two numbers have a product: both are integers, or both have a binary64 number. -/
def Multiplies (x y : Number) : Prop := (∃ m n, x = int m ∧ y = int n) ∨ x.HasReal ∧ y.HasReal

theorem exists_mul_iff {x y : Number} : (∃ p, x.mul y = .ok p) ↔ x.Multiplies y := by
  have hreal : (∃ p, (do return .real ((← x.toReal).mul (← y.toReal)) :
      Except ArithmeticFault Number) = .ok p) ↔ x.HasReal ∧ y.HasReal := by
    simp only [← exists_toReal_iff, bind_eq_ok, pure_eq_ok]
    constructor
    · rintro ⟨_, a, ha, b, hb, -⟩
      exact ⟨⟨a, ha⟩, b, hb⟩
    · rintro ⟨⟨a, ha⟩, b, hb⟩
      exact ⟨_, a, ha, b, hb, rfl⟩
  by_cases hint : ∃ m n, x = int m ∧ y = int n
  · obtain ⟨m, n, rfl, rfl⟩ := hint
    exact iff_of_true ⟨int (m * n), rfl⟩ (.inl ⟨m, n, rfl, rfl⟩)
  · rw [Multiplies, or_iff_right hint, ← hreal]
    cases x with
    | int m =>
      cases y with
      | int n => exact absurd ⟨m, n, rfl, rfl⟩ hint
      | real b => rfl
    | real a => rfl

theorem multiplies_real {x : Number} {r : Binary64} : (real r).Multiplies x ↔ x.HasReal := by
  constructor
  · rintro (⟨m, n, hr, -⟩ | ⟨-, hx⟩)
    · cases hr
    · exact hx
  · intro hx
    exact .inr ⟨trivial, hx⟩

theorem int_multiplies {m : Int} (hm : (int m).HasReal) (x : Number) :
    (int m).Multiplies x := by
  cases x with
  | int n => exact .inl ⟨m, n, rfl, rfl⟩
  | real r => exact .inr ⟨hm, trivial⟩

theorem roundHalfUp_eq_ok {x : Number} {n : Int} :
    x.roundHalfUp = .ok n ↔ ∃ y, x.toReal = .ok y ∧ y.isFinite = true ∧
      n = (y.add Binary64.half).toRat.floor := by
  simp only [roundHalfUp, bind_eq_ok, Binary64.toInteger_eq_ok, Binary64.isFinite_add_half]

theorem exists_roundHalfUp_iff {x : Number} : (∃ n, x.roundHalfUp = .ok n) ↔ x.IsBounded := by
  simp only [roundHalfUp_eq_ok, isBounded_iff_toReal]
  constructor
  · rintro ⟨_, y, hy, hfinite, -⟩
    exact ⟨y, hy, hfinite⟩
  · rintro ⟨y, hy, hfinite⟩
    exact ⟨_, y, hy, hfinite, rfl⟩

theorem exists_roundDots_iff {x : Number} : (∃ n, x.roundDots = .ok n) ↔ x.IsBounded :=
  exists_bind_pure_eq_ok.trans exists_roundHalfUp_iff

theorem isBounded_iff_rank {x : Number} :
    x.IsBounded ↔ ∃ q, x.rank = some (0, q) ∧ |q| < overflow := by
  cases x with
  | int n => simp [IsBounded, rank]
  | real x =>
    cases x with
    | nan p => simp [IsBounded, rank, Binary64.rank, Binary64.isFinite]
    | infinity s => cases s <;> simp [IsBounded, rank, Binary64.rank, Binary64.isFinite]
    | finite s m e h =>
      have hx := Binary64.abs_toRat_add_one_lt (.finite s m e h)
      have hlt : |Binary64.toRat (.finite s m e h)| < overflow := by linarith
      simp [IsBounded, rank, Binary64.rank, Binary64.isFinite, hlt]

theorem isBounded_of_same {x y : Number} (h : x.same y = true) (hy : y.IsBounded) :
    x.IsBounded := by
  obtain ⟨q, hrank, hq⟩ := isBounded_iff_rank.mp hy
  refine isBounded_iff_rank.mpr ⟨q, ?_, hq⟩
  unfold same at h
  split at h
  · next p p' hp hp' => rw [hp, eq_of_beq h, ← hp', hrank]
  · cases h

theorem isBounded_of_isZero {x : Number} (h : x.isZero = true) : x.IsBounded := by
  cases x with
  | int n =>
    obtain rfl : n = 0 := eq_of_beq h
    simpa [IsBounded] using Binary64.overflow_pos
  | real x =>
    cases x with
    | finite s m e h => rfl
    | _ => cases h

theorem isBounded_orElse {x default : Number} (hdefault : default.IsBounded) :
    (x.orElse default).IsBounded ↔ x.IsBounded := by
  unfold orElse
  split
  · next hzero => exact iff_of_true hdefault (isBounded_of_isZero hzero)
  · rfl

/-- Rounding never leaves the range. -/
theorem isBounded_of_roundHalfUp {x : Number} {n : Int} (h : x.roundHalfUp = .ok n) :
    (int n).IsBounded := by
  obtain ⟨y, -, -, rfl⟩ := roundHalfUp_eq_ok.mp h
  obtain ⟨q, hq⟩ : ∃ q, (y.add Binary64.half).toRat = q := ⟨_, rfl⟩
  have hrange := Binary64.abs_toRat_add_one_lt (y.add Binary64.half)
  rw [hq] at hrange ⊢
  have hlow := Rat.floor_le q
  have hhigh : q < q.floor + 1 := by exact_mod_cast Rat.lt_floor_add_one q
  have hq := abs_lt.mp (lt_of_le_of_lt (le_add_of_nonneg_right zero_le_one) hrange)
  have hq' := abs_lt.mp (lt_sub_iff_add_lt.mpr hrange)
  exact abs_lt.mpr ⟨by linarith, by linarith⟩

end Number

/-- The number that is computed exists, and can be rounded to whole dots. -/
def GivesDots (x : Except ArithmeticFault Number) : Prop := ∃ n, x = .ok n ∧ n.IsBounded

theorem givesDots_iff {x : Except ArithmeticFault Number} :
    GivesDots x ↔ ∃ n, x >>= Number.roundHalfUp = .ok n := by
  simp only [GivesDots, bind_eq_ok, ← Number.exists_roundHalfUp_iff]
  constructor
  · rintro ⟨n, hn, k, hk⟩
    exact ⟨k, n, hn, hk⟩
  · rintro ⟨k, n, hn, hk⟩
    exact ⟨n, hn, k, hk⟩

/-! ## Integers that are not large -/

namespace Binary64

theorem toRat_ofInt {n : Int} (h : |n| < 2 * leastMantissa) :
    (ofInt n).isFinite = true ∧ (ofInt n).toRat = n := by
  have hround : (round false (n * 2 ^ (0 : Int))).isFinite = true ∧
      (round false (n * 2 ^ (0 : Int))).toRat = n * 2 ^ (0 : Int) :=
    toRat_round_mul h (by decide) (by decide)
  rwa [zpow_zero, mul_one] at hround

theorem toRat_half : half.toRat = 1 / 2 := by
  decide +kernel

theorem toRat_add_half_eq {x : Binary64} (hfinite : x.isFinite = true) :
    (x.add half).toRat = rounded (x.toRat + 1 / 2) := by
  obtain ⟨s, hs⟩ := exists_add_eq_round hfinite (half_eq ▸ rfl : half.isFinite = true)
  have hfinite' : (x.add half).isFinite = true := isFinite_add_half x ▸ hfinite
  rw [hs] at hfinite' ⊢
  rw [toRat_round hfinite', toRat_half]

theorem toRat_add_half {x : Binary64} {n : Int} (hfinite : x.isFinite = true) (hx : x.toRat = n)
    (hn : |n| < leastMantissa) : (x.add half).toRat = n + 1 / 2 := by
  rw [toRat_add_half_eq hfinite, hx, (isRepresentable_add_half hn).rounded_eq]

theorem isFinite_mul {x y : Binary64} (hx : x.isFinite = true) :
    (x.mul y).isFinite = true ↔ ∃ q, y.rank = some (0, q) ∧ |x.toRat * q| < overflow := by
  cases x with
  | finite s m e h =>
    cases y with
    | nan p => simp [mul, noNumber, isFinite, rank]
    | infinity t =>
      by_cases hm : m = 0 <;> cases t <;>
        simp [mul, hm, noNumber, isFinite, rank]
    | finite t n f h' => simp [mul, isFinite_round_iff, rank]
  | _ => cases hx

end Binary64

namespace Number
open Binary64 (overflow)

theorem toReal_int {n : Int} (h : |n| < 2 * leastMantissa) :
    (int n).toReal = .ok (Binary64.ofInt n) := by
  have hfinite := (Binary64.toRat_ofInt h).1
  simp only [toReal]
  split
  · next hinfinite =>
    rw [hinfinite] at hfinite
    cases hfinite
  · rfl

theorem roundHalfUp_of_toReal {x : Number} {y : Binary64} {n : Int} (hy : x.toReal = .ok y)
    (hfinite : y.isFinite = true) (hvalue : y.toRat = n) (h : |n| < leastMantissa) :
    x.roundHalfUp = .ok n := by
  refine roundHalfUp_eq_ok.mpr ⟨y, hy, hfinite, ?_⟩
  rw [Binary64.toRat_add_half hfinite hvalue h]
  refine le_antisymm (Rat.le_floor_iff.mpr (by linarith)) ?_
  have hfloor : (((n : Rat) + 1 / 2).floor : Rat) < ((n + 1 : Int) : Rat) := by
    push_cast
    linarith [Rat.floor_le ((n : Rat) + 1 / 2)]
  exact Int.lt_add_one_iff.mp (Int.cast_lt.mp hfloor)

theorem roundHalfUp_int {n : Int} (h : |n| < leastMantissa) : (int n).roundHalfUp = .ok n := by
  have hwide : |n| < 2 * leastMantissa := by omega
  obtain ⟨hfinite, hvalue⟩ := Binary64.toRat_ofInt hwide
  exact roundHalfUp_of_toReal (toReal_int hwide) hfinite hvalue h

/-- An integer that is not large has a product with a number, which can be rounded to whole dots,
exactly if that number is no infinity and the exact product does not overflow. -/
theorem givesDots_int_mul {n : Int} (h : |n| < 2 * leastMantissa) {x : Number} :
    GivesDots ((int n).mul x) ↔ ∃ q, x.rank = some (0, q) ∧ |n * q| < overflow := by
  cases x with
  | int m => simp [GivesDots, mul, IsBounded, rank]
  | real y =>
    obtain ⟨hfinite, hvalue⟩ := Binary64.toRat_ofInt h
    have hmul : (int n).mul (real y) = .ok (real ((Binary64.ofInt n).mul y)) := by
      rw [mul, toReal_int h]
      · rfl
      · rintro _ _ - ⟨⟩
    rw [hmul, rank, ← hvalue, ← Binary64.isFinite_mul hfinite]
    simp [GivesDots, IsBounded]

theorem div_int {a b : Int} (hb : b ≠ 0) (h : |(a / b : Rat)| < overflow) :
    (int a).div (int b) =
      .ok (Binary64.round (decide (a < 0) != decide (b < 0)) (a / b : Rat)) := by
  simp only [div, if_neg hb]
  split
  · next s hinfinite =>
    have hfinite : (Binary64.round (decide (a < 0) != decide (b < 0)) (a / b : Rat)).isFinite =
        true := Binary64.isFinite_round_iff.mpr h
    rw [hinfinite] at hfinite
    cases hfinite
  · rfl

theorem exists_div_int {a b : Int} (hb : b ≠ 0) (h : |(a / b : Rat)| < overflow) :
    ∃ q, (int a).div (int b) = .ok q ∧ q.isFinite = true :=
  ⟨_, div_int hb h, Binary64.isFinite_round_iff.mpr h⟩

end Number

/-! ## Dots that are not lost -/

namespace Binary64
variable {x y : Binary64}

theorem one_le_add_half (hfinite : x.isFinite = true) (h : 1 / 2 ≤ x.toRat) :
    1 ≤ (x.add half).toRat := by
  rw [toRat_add_half_eq hfinite]
  exact isRepresentable_one.le_rounded (by linarith)

/-- A factor of at least one does not bring a number below one half. -/
theorem half_le_mul (hx : 1 / 2 ≤ x.toRat) (hy : 1 ≤ y.toRat)
    (hfinite : (x.mul y).isFinite = true) : 1 / 2 ≤ (x.mul y).toRat := by
  have hproduct : 1 / 2 ≤ x.toRat * y.toRat := by nlinarith
  cases x with
  | finite s m e hc =>
    cases y with
    | finite t k f hc' => exact isRepresentable_half.le_toRat_round hproduct hfinite
    | _ => norm_num [toRat] at hy
  | _ => norm_num [toRat] at hx

end Binary64

namespace Number
open Binary64 (overflow)
variable {x : Number} {y : Binary64} {q : Rat} {n : Int}

theorem eq_ofInt_of_toReal (h : (int n).toReal = .ok y) : y = Binary64.ofInt n := by
  simp only [toReal] at h
  split at h
  · cases h
  · exact (Except.ok.inj h).symm

theorem one_le_of_toReal (hn : 1 ≤ n) (h : (int n).toReal = .ok y) : 1 ≤ y.toRat := by
  have hbounded : |(n : Rat)| < overflow := exists_toReal_iff.mp ⟨y, h⟩
  have hn' : (1 : Rat) ≤ n := by exact_mod_cast hn
  rw [eq_ofInt_of_toReal h]
  exact Binary64.isRepresentable_one.le_toRat_round hn' (Binary64.isFinite_round_iff.mpr hbounded)

theorem rank_real (hfinite : y.isFinite = true) : (real y).rank = some (0, y.toRat) := by
  cases y with
  | finite s m e hc => rfl
  | _ => cases hfinite

theorem half_le_of_toReal (hrank : x.rank = some (0, q)) (hq : 1 / 2 ≤ q) (hy : x.toReal = .ok y)
    (hfinite : y.isFinite = true) : 1 / 2 ≤ y.toRat := by
  cases x with
  | int n =>
    cases eq_ofInt_of_toReal hy
    cases hrank
    exact Binary64.isRepresentable_half.le_toRat_round hq hfinite
  | real r =>
    cases hy
    cases (rank_real hfinite).symm.trans hrank
    exact hq

/-- What is at least one half is rounded to one dot or more. -/
theorem one_le_of_roundHalfUp (hrank : x.rank = some (0, q)) (hq : 1 / 2 ≤ q)
    (h : x.roundHalfUp = .ok n) : 1 ≤ n := by
  obtain ⟨y, hy, hfinite, rfl⟩ := roundHalfUp_eq_ok.mp h
  have hone := Binary64.one_le_add_half hfinite (half_le_of_toReal hrank hq hy hfinite)
  exact Rat.le_floor_iff.mpr (by exact_mod_cast hone)

end Number
end LabelPress
