import LabelPress.Document.Read
import LabelPress.Proofs.Label.Commands
import LabelPress.Proofs.NearestDot
import LabelPress.Proofs.Settings.Load

/-!
# The height of printed texts

The height of a font is the rounded product of the size of the text, or of a default in place of a
size of zero, and the scale of the label. Strokes, bars and modules are kept from vanishing, but
nothing keeps a height from falling to zero or below: that happens exactly if the exact product is
not, or not nearly, at least one half.
-/

namespace LabelPress
open Binary64 (IsRepresentable belowHalf rounded)

namespace Number
variable {x y default : Number} {p q d : Rat}

theorem isZero_iff_of_rank (h : x.rank = some (0, q)) : x.isZero = true ↔ q = 0 := by
  cases x with
  | int n =>
    cases h
    rw [isZero, beq_iff_eq, Int.cast_eq_zero]
  | real y =>
    cases y with
    | finite s m e hc =>
      cases h
      have hpow : (2 : Rat) ^ e ≠ 0 := zpow_ne_zero _ two_ne_zero
      cases s <;> simp [isZero, Binary64.isZero, Binary64.toRat, hpow]
    | nan payload => cases h
    | infinity s => cases s <;> cases h

theorem rank_orElse (h : x.rank = some (0, q)) (hdefault : default.rank = some (0, d)) :
    (x.orElse default).rank = some (0, if q = 0 then d else q) := by
  simp only [orElse, isZero_iff_of_rank h]
  split
  · exact hdefault
  · exact h

/-- Unless both are integers, numbers are multiplied as binary64 numbers. -/
theorem mul_of_toReal (h : ¬∃ m n, x = int m ∧ y = int n) {a b : Binary64}
    (ha : x.toReal = .ok a) (hb : y.toReal = .ok b) : x.mul y = .ok (real (a.mul b)) := by
  have hmul : x.mul y = (do return real ((← x.toReal).mul (← y.toReal))) := by
    cases x with
    | int m =>
      cases y with
      | int n => exact absurd ⟨m, n, rfl, rfl⟩ h
      | real y => rfl
    | real x => rfl
  rw [hmul, ha, hb]
  rfl

/-- The product of numbers up to a million is the rounded exact product. -/
theorem exists_mul_of_rank (hx : x.rank = some (0, p)) (hp : |p| ≤ 10 ^ 6)
    (hy : y.rank = some (0, q)) (hq : |q| ≤ 10 ^ 6) :
    ∃ z, x.mul y = .ok z ∧ z.rank = some (0, rounded (p * q)) ∧
      |rounded (p * q)| < 2 * leastMantissa := by
  have hproduct : |p * q| ≤ 10 ^ 12 := by
    rw [abs_mul]
    calc |p| * |q| ≤ 10 ^ 6 * 10 ^ 6 := mul_le_mul hp hq (abs_nonneg q) (by norm_num)
      _ = 10 ^ 12 := by norm_num
  have hbound : |rounded (p * q)| < 2 * leastMantissa := by
    have hlimit : IsRepresentable (10 ^ 12 : Int) :=
      Binary64.isRepresentable_intCast (by decide)
    have hle := hlimit.abs_rounded_le (by exact_mod_cast hproduct)
    exact hle.trans_lt (by norm_num [leastMantissa])
  by_cases hint : ∃ m n, x = int m ∧ y = int n
  · obtain ⟨m, n, rfl, rfl⟩ := hint
    cases hx
    cases hy
    have hsmall : |m * n| < 2 * leastMantissa := by
      have hle : |m * n| ≤ 10 ^ 12 := by exact_mod_cast hproduct
      exact hle.trans_lt (by decide)
    refine ⟨int (m * n), rfl, ?_, hbound⟩
    rw [← Int.cast_mul, (Binary64.isRepresentable_intCast hsmall).rounded_eq]
    rfl
  · have hsmall : (10 : Rat) ^ 6 < 2 * leastMantissa := by norm_num [leastMantissa]
    obtain ⟨a, ha, hafinite, rfl⟩ := exists_toReal_of_rank hx (hp.trans_lt hsmall)
    obtain ⟨b, hb, hbfinite, rfl⟩ := exists_toReal_of_rank hy (hq.trans_lt hsmall)
    have hfits : |a.toRat * b.toRat| < Binary64.overflow :=
      hproduct.trans_lt (by decide +kernel)
    obtain ⟨hfinite, hvalue⟩ := Binary64.toRat_mul hafinite hbfinite hfits
    exact ⟨_, mul_of_toReal hint ha hb, by rw [rank_real hfinite, hvalue], hbound⟩

end Number

/-- Which products are rounded to the last number below one half, or beyond it. -/
theorem belowHalf_le_rounded_iff {q : Rat} :
    belowHalf ≤ rounded q ↔ 1 / 2 - 3 / 2 ^ 55 < q := by
  have hreached := Binary64.le_rounded_iff_of_odd (m := 2 ^ 53 - 1) (k := -54) (q := q)
    (by decide) (by decide) (by decide) (by decide)
  norm_num at hreached
  norm_num [belowHalf]
  exact hreached

namespace TextField
variable {t : TextField} {bindings : Entries} {catalog : Option Catalog} {scale : Number}
  {size c : Rat} {cs : List Command}

/-- The exact height in dots of a font of this size at this scale. -/
def exactHeight (size scale : Rat) : Rat := (if size = 0 then 20 else size) * scale

theorem one_le_scaledSize_iff {x : Number} (hsize : x.rank = some (0, size))
    (hsize' : |size| ≤ 10 ^ 6) (hscale : scale.rank = some (0, c)) (hscale' : |c| ≤ 10 ^ 6)
    {height : Int} (h : scaledSize x scale = .ok height) :
    1 ≤ height ↔ 1 / 2 - 3 / 2 ^ 55 < exactHeight size c := by
  obtain ⟨z, hz, hheight⟩ := bind_eq_ok.mp h
  have hrank : (x.orElse defaultSize).rank = some (0, if size = 0 then 20 else size) :=
    Number.rank_orElse hsize rfl
  have hbound : |if size = 0 then 20 else size| ≤ 10 ^ 6 := by
    split
    · norm_num
    · exact hsize'
  obtain ⟨z', hz', hproduct, hsmall⟩ := Number.exists_mul_of_rank hrank hbound hscale hscale'
  cases hz.symm.trans hz'
  rw [Number.one_le_roundHalfUp_iff hproduct hsmall hheight, belowHalf_le_rounded_iff]
  rfl

/-- A text prints with a height of at least one dot exactly if its exact height is more than a
number just below one half. -/
theorem printed_height_iff (hsize : t.fontSize.rank = some (0, size)) (hsize' : |size| ≤ 10 ^ 6)
    (hscale : scale.rank = some (0, c)) (hscale' : |c| ≤ 10 ^ 6)
    (h : t.commands bindings catalog scale = .ok cs) :
    ∃ x y height content,
      cs = [.origin x y, .font t.angle.orientation height, .data content] ∧
        (1 ≤ height ↔ 1 / 2 - 3 / 2 ^ 55 < exactHeight size c) := by
  obtain ⟨x, y, content, height, -, -, hheight, rfl⟩ := commands_eq_ok.mp h
  exact ⟨x, y, height, content, rfl, one_le_scaledSize_iff hsize hsize' hscale hscale' hheight⟩

def tinyText : TextField :=
  { position := ⟨0, 0⟩, text := "a", fontSize := .real (.ofRat (1 / 3)) }

theorem printed_height_tinyText : ∃ size c cs,
    tinyText.fontSize.rank = some (0, size) ∧ |size| ≤ 10 ^ 6 ∧
    Settings.packaged.fontScale.toNumber.rank = some (0, c) ∧ |c| ≤ 10 ^ 6 ∧
    tinyText.commands [] none Settings.packaged.fontScale.toNumber = .ok cs ∧
    ∃ x y height content, cs = [.origin x y, .font tinyText.angle.orientation height,
      .data content] ∧ 1 ≤ height := by
  have hsize : tinyText.fontSize.rank = some (0, 6004799503160661 / 2 ^ 54) := by decide +kernel
  have hscale : Settings.packaged.fontScale.toNumber.rank = some (0, 3 / 2) := by decide +kernel
  have hok : tinyText.commands [] none Settings.packaged.fontScale.toNumber =
      .ok [.origin 0 0, .font .normal 1, .data "a"] := by decide +kernel
  have hsize' : |(6004799503160661 / 2 ^ 54 : Rat)| ≤ 10 ^ 6 := by decide +kernel
  have hscale' : |(3 / 2 : Rat)| ≤ 10 ^ 6 := by decide +kernel
  obtain ⟨x, y, height, content, hcs, hiff⟩ := printed_height_iff hsize hsize' hscale hscale' hok
  exact ⟨_, _, _, hsize, hsize', hscale, hscale', hok, x, y, height, content, hcs,
    hiff.mpr (by decide +kernel)⟩

def faintText : Value := .ofFields [("kind", .text "text"), ("text", .text "a"),
  ("font_size", .number (.real (.ofRat (1 / 4))))]

theorem faintText_has_no_height : ∃ t,
    Element.ofValue? faintText = .ok (some (.text t)) ∧
    t.fontSize.rank = some (0, 1 / 4) ∧
    Settings.ofValues (Settings.overlay []) = .ok Settings.packaged ∧
    Settings.packaged.fontScale.toNumber.rank = some (0, 3 / 2) ∧
    t.commands [] none Settings.packaged.fontScale.toNumber =
      .ok [.origin 0 0, .font .normal 0, .data "a"] :=
  ⟨{ position := ⟨0, 0⟩, text := "a", fontSize := .real (.ofRat (1 / 4)) }, by decide +kernel,
    by decide +kernel, Settings.ofValues_packaged, by decide +kernel, by decide +kernel⟩

end TextField
end LabelPress
