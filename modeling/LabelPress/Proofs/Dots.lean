import LabelPress.Element.Basic
import LabelPress.Proofs.Number

/-!
# Places in whole dots

An integer is given as an integer or as a binary64 number. Unless it is large it is rounded to
itself and added without loss in both forms, so that places in whole dots are rounded and moved like
pairs of integers.
-/

namespace LabelPress

theorem Binary64.toRat_add_ofInt {y : Binary64} {m n : Int} (hfinite : y.isFinite = true)
    (hm : y.toRat = m) (hn : |n| < 2 * leastMantissa) (hsum : |m + n| < 2 * leastMantissa) :
    (y.add (ofInt n)).isFinite = true ∧ (y.add (ofInt n)).toRat = ((m + n : Int) : Rat) := by
  obtain ⟨hfinite', hvalue⟩ := toRat_ofInt hn
  have hexact : y.toRat + (ofInt n).toRat = ((m + n : Int) : Rat) := by
    rw [hm, hvalue, Int.cast_add]
  have hfits : |y.toRat + (ofInt n).toRat| < overflow := by
    rw [hexact]
    exact isFinite_round_iff.mp (toRat_ofInt hsum).1
  obtain ⟨hadd, hsum'⟩ := toRat_add hfinite hfinite' hfits
  exact ⟨hadd, by rw [hsum', hexact, (isRepresentable_intCast hsum).rounded_eq]⟩

namespace Number

def toInt : Number → Int
  | int n => n
  | real x => x.toRat.floor

structure IsWithin (b : Int) (x : Number) : Prop where
  rank : x.rank = some (0, (x.toInt : Rat))
  le : |x.toInt| ≤ b

instance (b : Int) (x : Number) : Decidable (x.IsWithin b) :=
  decidable_of_iff (x.rank = some (0, (x.toInt : Rat)) ∧ |x.toInt| ≤ b)
    ⟨fun h => ⟨h.1, h.2⟩, fun h => ⟨h.rank, h.le⟩⟩

/-- The number that is `n` more; a binary64 number stays one. -/
def moved (n : Int) : Number → Number
  | int m => int (m + n)
  | real x => real (x.add (.ofInt n))

variable {x : Number} {b c n : Int}

theorem toInt_real {y : Binary64} (h : y.toRat = n) : (real y).toInt = n := by
  rw [toInt, h, Rat.floor_intCast]

theorem isWithin_real_iff {y : Binary64} : (real y).IsWithin b ↔
    y.isFinite = true ∧ ∃ n : Int, y.toRat = n ∧ |n| ≤ b := by
  constructor
  · rintro ⟨hrank, hle⟩
    cases y with
    | nan p => cases hrank
    | infinity s => cases s <;> cases hrank
    | finite s m e h =>
      simp only [Number.rank, Binary64.rank, Option.some.injEq, Prod.mk.injEq] at hrank
      exact ⟨rfl, _, hrank.2, hle⟩
  · rintro ⟨hfinite, n, hn, hle⟩
    have hint := toInt_real hn
    rw [← hint] at hn hle
    exact ⟨hn ▸ rank_real hfinite, hle⟩

theorem IsWithin.roundHalfUp_eq (h : x.IsWithin b) (hb : b < leastMantissa) :
    x.roundHalfUp = .ok x.toInt := by
  have hsmall : |x.toInt| < leastMantissa := lt_of_le_of_lt h.le hb
  cases x with
  | int n => exact roundHalfUp_int hsmall
  | real y =>
    obtain ⟨hfinite, n, hn, -⟩ := isWithin_real_iff.mp h
    rw [toInt_real hn] at hsmall ⊢
    exact roundHalfUp_of_toReal rfl hfinite hn hsmall

theorem IsWithin.roundDots_eq (h : x.IsWithin b) (hb : b < leastMantissa) :
    x.roundDots = .ok x.toInt.toNat := by
  rw [roundDots, h.roundHalfUp_eq hb]
  rfl

theorem add_int (hn : |n| < 2 * leastMantissa) : x.add (int n) = .ok (x.moved n) := by
  cases x with
  | int m => rfl
  | real y =>
    rw [add, toReal_int hn]
    · rfl
    · rintro _ _ ⟨⟩

/-- A sum of two integers is exact, also where it is a binary64 number. -/
theorem IsWithin.moved_spec (h : x.IsWithin b) (hn : |n| ≤ c) (hbc : b + c < 2 * leastMantissa) :
    (x.moved n).IsWithin (b + c) ∧ (x.moved n).toInt = x.toInt + n := by
  have hle : |x.toInt + n| ≤ b + c := (abs_add_le _ _).trans (add_le_add h.le hn)
  have hb := (abs_nonneg _).trans h.le
  cases x with
  | int m => exact ⟨⟨rfl, hle⟩, rfl⟩
  | real y =>
    obtain ⟨hfinite, m, hm, -⟩ := isWithin_real_iff.mp h
    rw [toInt_real hm] at hle ⊢
    obtain ⟨hfinite', hvalue⟩ := Binary64.toRat_add_ofInt hfinite hm (by omega)
      (lt_of_le_of_lt hle hbc)
    exact ⟨isWithin_real_iff.mpr ⟨hfinite', m + n, hvalue, hle⟩, toInt_real hvalue⟩

end Number

/-- A dot by its column and row, also beyond the edges of the label; or the way to such a dot. -/
structure Dot where
  x : Int
  y : Int
  deriving DecidableEq

namespace Dot

instance : Add Dot := ⟨fun a b => ⟨a.x + b.x, a.y + b.y⟩⟩

@[simp] theorem add_x (a b : Dot) : (a + b).x = a.x + b.x := rfl

@[simp] theorem add_y (a b : Dot) : (a + b).y = a.y + b.y := rfl

/-- A command can place something there: the dot lies neither to the left of the label nor above
it. -/
structure IsPlaceable (a : Dot) : Prop where
  x : 0 ≤ a.x
  y : 0 ≤ a.y

instance (a : Dot) : Decidable a.IsPlaceable :=
  decidable_of_iff (0 ≤ a.x ∧ 0 ≤ a.y) ⟨fun h => ⟨h.1, h.2⟩, fun h => ⟨h.x, h.y⟩⟩

end Dot

namespace Point

def dot (p : Point) : Dot := ⟨p.x.toInt, p.y.toInt⟩

structure IsWithin (b : Int) (p : Point) : Prop where
  x : p.x.IsWithin b
  y : p.y.IsWithin b

instance (b : Int) (p : Point) : Decidable (p.IsWithin b) :=
  decidable_of_iff (p.x.IsWithin b ∧ p.y.IsWithin b)
    ⟨fun h => ⟨h.1, h.2⟩, fun h => ⟨h.x, h.y⟩⟩

def moved (d : Dot) (p : Point) : Point := ⟨p.x.moved d.x, p.y.moved d.y⟩

variable {p : Point} {d : Dot} {b c : Int}

theorem IsWithin.rounded_eq (h : p.IsWithin b) (hb : b < leastMantissa) :
    p.rounded = .ok (p.dot.x.toNat, p.dot.y.toNat) := by
  rw [rounded, h.x.roundDots_eq hb, h.y.roundDots_eq hb]
  rfl

theorem IsWithin.moved_spec (h : p.IsWithin b) (hx : |d.x| ≤ c) (hy : |d.y| ≤ c)
    (hbc : b + c < 2 * leastMantissa) :
    (p.moved d).IsWithin (b + c) ∧ (p.moved d).dot = p.dot + d := by
  obtain ⟨hwx, hmx⟩ := h.x.moved_spec hx hbc
  obtain ⟨hwy, hmy⟩ := h.y.moved_spec hy hbc
  exact ⟨⟨hwx, hwy⟩, Dot.mk.injEq .. ▸ ⟨hmx, hmy⟩⟩

end Point
end LabelPress
