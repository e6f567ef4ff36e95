import LabelPress.Orientation
import LabelPress.Proofs.Binary64.Remainder

/-!
# The nearest orientation

An angle that is an integer goes to the nearest orientation exactly. Every other angle gets a whole
turn added and taken away again, and the sum rounds: an angle a little below the bound between two
orientations is carried to the bound, and so to the later of them. How little that has to be depends
on the bound, since the places of the numbers lie further apart after a power of two.
-/

namespace LabelPress

/-- The orientation nearest to an angle from zero to below a whole turn. -/
def Orientation.ofTurn (r : Rat) : Orientation :=
  if r < 45 then .normal
  else if r < 135 then .rotated
  else if r < 225 then .inverted
  else if r < 315 then .bottomUp
  else .normal

/-- The angle is so little below a bound between two orientations that it is carried there. -/
def IsCarried (r : Rat) : Prop :=
  45 - 9 / 2 ^ 48 ≤ r ∧ r < 45 ∨ 135 - 3 / 2 ^ 46 < r ∧ r < 135 ∨
    225 - 5 / 2 ^ 46 ≤ r ∧ r < 225 ∨ 315 - 3 / 2 ^ 45 < r ∧ r < 315

instance (r : Rat) : Decidable (IsCarried r) := by
  unfold IsCarried
  infer_instance

namespace Binary64
variable {r : Rat}

/-- An angle after a whole turn was added and taken away again. -/
def turned (r : Rat) : Rat := rounded (rounded r + 360) - 360

theorem rounded_bounds (hlow : 0 ≤ r) (hhigh : r ≤ 360) : 0 ≤ rounded r ∧ rounded r ≤ 360 :=
  ⟨(isRepresentable_intCast (m := 0) (by decide)).le_rounded hlow,
    (isRepresentable_intCast (m := 360) (by decide)).rounded_le hhigh⟩

theorem turned_bounds (hlow : 0 ≤ r) (hhigh : r ≤ 360) : 0 ≤ turned r ∧ turned r ≤ 360 := by
  obtain ⟨hnonneg, hturn⟩ := rounded_bounds hlow hhigh
  have hone : 360 ≤ rounded (rounded r + 360) :=
    (isRepresentable_intCast (m := 360) (by decide)).le_rounded (by push_cast; linarith)
  have htwo : rounded (rounded r + 360) ≤ 720 :=
    (isRepresentable_intCast (m := 720) (by decide)).rounded_le (by push_cast; linarith)
  unfold turned
  constructor <;> linarith

theorem toRat_add_turn {s : Binary64} (hs : s.isFinite = true) (hvalue : s.toRat = rounded r)
    (hlow : 0 ≤ r) (hhigh : r ≤ 360) :
    (s.add (.ofInt 360)).isFinite = true ∧ (s.add (.ofInt 360)).toRat = turned r + 360 := by
  obtain ⟨hfinite, hturn⟩ := toRat_ofInt (n := 360) (by decide)
  have hsum : s.toRat + (ofInt 360).toRat = rounded r + 360 := by
    rw [hvalue, hturn, Int.cast_ofNat]
  have hbounds := rounded_bounds hlow hhigh
  rw [turned, sub_add_cancel, ← hsum]
  refine toRat_add hs hfinite ?_
  rw [hsum, abs_of_nonneg (by linarith)]
  refine lt_overflow_of_small ?_
  norm_num [leastMantissa]
  linarith

/-- A bound is passed from half a unit below it on, in units of the sum with a whole turn. -/
theorem le_turned_iff {b : Rat} {m k : Int} (hsum : m * 2 ^ k = b + 360) (heven : m % 2 = 0)
    (hlow : leastMantissa < m) (hhigh : m ≤ 2 * leastMantissa) (hk : -1074 ≤ k) :
    b ≤ turned r ↔ b - 1 / 2 * 2 ^ k ≤ rounded r := by
  have hreached := le_rounded_iff_of_even (q := rounded r + 360) hlow hhigh hk heven
  rw [sub_mul, hsum] at hreached
  calc b ≤ turned r ↔ b + 360 ≤ rounded (rounded r + 360) := by
        unfold turned
        constructor <;> intro h <;> linarith
    _ ↔ b + 360 - 1 / 2 * 2 ^ k ≤ rounded r + 360 := hreached
    _ ↔ b - 1 / 2 * 2 ^ k ≤ rounded r := by constructor <;> intro h <;> linarith

theorem le_turned_45 : 45 ≤ turned r ↔ 45 - 9 / 2 ^ 48 ≤ r := by
  have hangle := le_rounded_iff_of_even (m := 45 * 2 ^ 47 - 4) (k := -47) (q := r)
    (by decide) (by decide) (by decide) (by decide)
  rw [le_turned_iff (m := 405 * 2 ^ 44) (k := -44) (by norm_num) (by decide) (by decide)
    (by decide) (by decide)]
  norm_num at hangle ⊢
  exact hangle

theorem le_turned_135 : 135 ≤ turned r ↔ 135 - 3 / 2 ^ 46 < r := by
  have hangle := le_rounded_iff_of_odd (m := 135 * 2 ^ 45 - 1) (k := -45) (q := r)
    (by decide) (by decide) (by decide) (by decide)
  rw [le_turned_iff (m := 495 * 2 ^ 44) (k := -44) (by norm_num) (by decide) (by decide)
    (by decide) (by decide)]
  norm_num at hangle ⊢
  exact hangle

theorem le_turned_225 : 225 ≤ turned r ↔ 225 - 5 / 2 ^ 46 ≤ r := by
  have hangle := le_rounded_iff_of_even (m := 225 * 2 ^ 45 - 2) (k := -45) (q := r)
    (by decide) (by decide) (by decide) (by decide)
  rw [le_turned_iff (m := 585 * 2 ^ 43) (k := -43) (by norm_num) (by decide) (by decide)
    (by decide) (by decide)]
  norm_num at hangle ⊢
  exact hangle

theorem le_turned_315 : 315 ≤ turned r ↔ 315 - 3 / 2 ^ 45 < r := by
  have hangle := le_rounded_iff_of_odd (m := 315 * 2 ^ 44 - 1) (k := -44) (q := r)
    (by decide) (by decide) (by decide) (by decide)
  rw [le_turned_iff (m := 675 * 2 ^ 43) (k := -43) (by norm_num) (by decide) (by decide)
    (by decide) (by decide)]
  norm_num at hangle ⊢
  exact hangle

end Binary64

namespace Orientation
open Binary64 (turned)
variable {r : Rat}

/-- Taking the turn away again is exact, and a whole turn is no turn. -/
theorem ofTurn_remainder_turned (hlow : 0 ≤ r) (hhigh : r ≤ 360) :
    ofTurn (remainder (turned r + 360) 360) = ofTurn (turned r) := by
  have hpos : 0 < 360 := by decide
  obtain ⟨hnonneg, hturn⟩ := Binary64.turned_bounds hlow hhigh
  rcases hturn.lt_or_eq with hlt | heq
  · rw [remainder_eq hpos (k := 1) (r := turned r) (by push_cast; ring) hnonneg
      (by exact_mod_cast hlt)]
  · rw [heq, remainder_eq hpos (k := 2) (r := 0) (by norm_num) le_rfl (by norm_num)]
    norm_num [ofTurn]

/-- The orientation depends only on which of the bounds an angle reaches. -/
theorem ofTurn_congr {u : Rat} (h45 : 45 ≤ u ↔ 45 ≤ r) (h135 : 135 ≤ u ↔ 135 ≤ r)
    (h225 : 225 ≤ u ↔ 225 ≤ r) (h315 : 315 ≤ u ↔ 315 ≤ r) : ofTurn u = ofTurn r := by
  simp only [ofTurn, ← not_le, h45, h135, h225, h315]

theorem ofTurn_turned_iff : ofTurn (turned r) = ofTurn r ↔ ¬IsCarried r := by
  have h45 := Binary64.le_turned_45 (r := r)
  have h135 := Binary64.le_turned_135 (r := r)
  have h225 := Binary64.le_turned_225 (r := r)
  have h315 := Binary64.le_turned_315 (r := r)
  norm_num at h45 h135 h225 h315
  by_cases hcarried : IsCarried r
  · refine iff_of_false ?_ (not_not.mpr hcarried)
    norm_num [IsCarried] at hcarried
    unfold ofTurn
    grind
  · refine iff_of_true ?_ hcarried
    norm_num [IsCarried] at hcarried
    apply ofTurn_congr <;> grind

end Orientation

theorem not_isCarried_intCast (n : Int) : ¬IsCarried n := by
  have hgap : ∀ b : Int, (n : Rat) < b → (n : Rat) < b - 1 / 2 := fun b h => by
    have hle : (n : Rat) ≤ (b - 1 : Int) := by
      exact_mod_cast Int.le_sub_one_of_lt (by exact_mod_cast h)
    push_cast at hle
    linarith
  rintro (⟨hlow, hhigh⟩ | ⟨hlow, hhigh⟩ | ⟨hlow, hhigh⟩ | ⟨hlow, hhigh⟩)
  · linarith [hgap 45 (by exact_mod_cast hhigh)]
  · linarith [hgap 135 (by exact_mod_cast hhigh)]
  · linarith [hgap 225 (by exact_mod_cast hhigh)]
  · linarith [hgap 315 (by exact_mod_cast hhigh)]

namespace Number
open Binary64 (rounded turned)
variable {a : Number} {q u : Rat}

theorem less_int (h : a.rank = some (0, u)) (n : Int) : a.less (int n) = decide (u < n) := by
  have hn : (int n).rank = some (0, (n : Rat)) := rfl
  simp [less, h, hn]

theorem int_atMost (h : a.rank = some (0, u)) (n : Int) : (int n).atMost a = decide (n ≤ u) := by
  have hn : (int n).rank = some (0, (n : Rat)) := rfl
  rw [Bool.eq_iff_iff]
  simp [atMost, less, same, h, hn, le_iff_lt_or_eq]

theorem orientation_eq_ofTurn (h : a.normalizedAngle.rank = some (0, u)) :
    a.orientation = .ofTurn u := by
  have h45 : a.normalizedAngle.less 45 = decide (u < 45) := mod_cast less_int h 45
  have h135 : a.normalizedAngle.less 135 = decide (u < 135) := mod_cast less_int h 135
  have h225 : a.normalizedAngle.less 225 = decide (u < 225) := mod_cast less_int h 225
  have h315 : (int 315).atMost a.normalizedAngle = decide (315 ≤ u) := mod_cast int_atMost h 315
  simp only [orientation, h45, h135, h225, h315, Orientation.ofTurn]
  grind

theorem orientation_int (n : Int) : (int n).orientation = .ofTurn (remainder n 360) := by
  have hnormal : (int n).normalizedAngle = int (n % 360) := by
    simp only [normalizedAngle, turnRemainder, plusTurn, int.injEq]
    omega
  rw [remainder_intCast (by decide)]
  exact orientation_eq_ofTurn (hnormal ▸ rfl)

theorem orientation_real {x : Binary64} (hx : x.isFinite = true) :
    (real x).orientation = .ofTurn (turned (remainder x.toRat 360)) := by
  have hpos : 0 < 360 := by decide
  obtain ⟨r, hr⟩ : ∃ r, remainder x.toRat 360 = r := ⟨_, rfl⟩
  have hlow : 0 ≤ r := hr ▸ remainder_nonneg hpos
  have hhigh : r ≤ 360 := hr ▸ (remainder_lt hpos).le
  obtain ⟨s, hs⟩ : ∃ s, x.mod 360 = s := ⟨_, rfl⟩
  obtain ⟨t, ht⟩ : ∃ t, s.add (.ofInt 360) = t := ⟨_, rfl⟩
  have hnormal : (real x).normalizedAngle = real (t.mod 360) := by
    rw [← ht, ← hs]
    rfl
  obtain ⟨hsfinite, hsvalue⟩ : s.isFinite = true ∧ s.toRat = rounded r :=
    hs ▸ hr ▸ Binary64.toRat_mod hx hpos (by decide)
  obtain ⟨htfinite, htvalue⟩ : t.isFinite = true ∧ t.toRat = turned r + 360 :=
    ht ▸ Binary64.toRat_add_turn hsfinite hsvalue hlow hhigh
  obtain ⟨hfinite, hvalue⟩ := Binary64.toRat_mod htfinite hpos (by decide)
  have hsum : 0 ≤ t.toRat := by
    rw [htvalue]
    linarith [Binary64.turned_bounds hlow hhigh]
  have hexact := Binary64.isRepresentable_remainder (Binary64.isRepresentable_toRat t) hsum hpos
    (by decide)
  rw [hexact.rounded_eq, htvalue] at hvalue
  rw [hr, orientation_eq_ofTurn (hnormal ▸ rank_real hfinite), hvalue]
  exact Orientation.ofTurn_remainder_turned hlow hhigh

/-- An angle goes to the nearest orientation, from a bound between two on to the later one, exactly
if it is not so little below a bound that it is carried there. For integers the orientation has a
period of 360 degrees. -/
theorem nearest_orientation_iff {angle : Number} (h : angle.rank = some (0, q)) :
    (angle.orientation = .ofTurn (remainder q 360) ↔ ¬IsCarried (remainder q 360)) ∧
      ∀ n k : Int, q = n → (int (n + 360 * k)).orientation = angle.orientation := by
  have hinteger : ∀ n : Int, remainder n 360 = ((n % 360 : Int) : Rat) :=
    fun n => remainder_intCast (by decide) n
  have hnearest : angle.orientation = .ofTurn (remainder q 360) ↔ ¬IsCarried (remainder q 360) := by
    cases angle with
    | int n =>
      cases h
      rw [orientation_int, hinteger]
      exact iff_of_true rfl (not_isCarried_intCast _)
    | real x =>
      cases x with
      | finite s m e hc =>
        cases h
        rw [orientation_real rfl]
        exact Orientation.ofTurn_turned_iff
      | nan p => cases h
      | infinity s => cases s <;> cases h
  refine ⟨hnearest, ?_⟩
  rintro n k rfl
  rw [hinteger] at hnearest
  rw [orientation_int, hinteger, hnearest.mpr (not_isCarried_intCast _), Int.add_mul_emod_self_left]

/-- The last angle below 135 degrees that is not carried there. -/
def lastRotated : Number := .real (.ofRat (135 - 1 / 2 ^ 44))

def turnAndQuarter : Number := .real (.ofInt 450)

theorem nearest_orientation_lastRotated :
    (lastRotated.rank = some (0, 135 - 1 / 2 ^ 44) ∧ lastRotated.orientation = .rotated) ∧
      turnAndQuarter.rank = some (0, 450) ∧
      (int (450 + 360 * -2)).orientation = turnAndQuarter.orientation := by
  have hlast : lastRotated.rank = some (0, 135 - 1 / 2 ^ 44) := by decide +kernel
  have hquarter : turnAndQuarter.rank = some (0, 450) := by decide +kernel
  have hspared : ¬IsCarried (remainder (135 - 1 / 2 ^ 44) 360) := by decide +kernel
  have hnearest : Orientation.ofTurn (remainder (135 - 1 / 2 ^ 44) 360) = .rotated := by
    decide +kernel
  exact ⟨⟨hlast, hnearest ▸ (nearest_orientation_iff hlast).1.mpr hspared⟩, hquarter,
    (nearest_orientation_iff hquarter).2 450 (-2) rfl⟩

/-- The last angle below 45 degrees. -/
def almostEighth : Number := .real (.ofRat (45 - 1 / 2 ^ 47))

theorem almostEighth_rotated : almostEighth.rank = some (0, 45 - 1 / 2 ^ 47) ∧
    remainder (45 - 1 / 2 ^ 47) 360 = 45 - 1 / 2 ^ 47 ∧
    Orientation.ofTurn (45 - 1 / 2 ^ 47) = .normal ∧ almostEighth.orientation = .rotated :=
  ⟨by decide +kernel, by decide +kernel, by decide +kernel, by decide +kernel⟩

end Number

end LabelPress
