import LabelPress.Proofs.Dots
import LabelPress.Proofs.Label.Printable

/-!
# Lines from dot to dot

A line whose numbers are integers that are not large is drawn from one dot to another, and only its
stroke can keep it from being drawn. A level or upright line that starts beyond an edge is brought in
at its whole length, so that it ends further in than it was asked to.
-/

namespace LabelPress

def Dot.origin (a : Dot) : Command := .origin a.x.toNat a.y.toNat

namespace Line

structure IsWithin (b : Int) (l : Line) : Prop where
  position : l.position.IsWithin b
  start : l.start.IsWithin b
  finish : l.finish.IsWithin b

def startDot (l : Line) : Dot := l.position.dot + l.start.dot

def finishDot (l : Line) : Dot := l.position.dot + l.finish.dot

def reversed (l : Line) : Line := { l with start := l.finish, finish := l.start }

def cornerDot (a b : Dot) : Dot :=
  ⟨(corner a.x a.y b.x b.y).1, (corner a.x a.y b.x b.y).2⟩

/-- The commands that draw a line between two dots. -/
def drawing (a b : Dot) (t : Nat) : List Command :=
  [(cornerDot a b).origin, strokeCommand (b.x - a.x) (b.y - a.y) t]

variable {l : Line} {a b : Dot} {t : Nat} {m n : Int}

theorem drawing_level (hy : a.y = b.y) : drawing a b t =
    [.origin (min a.x b.x).toNat a.y.toNat, .box (b.x - a.x).natAbs t t false] := by
  rw [drawing, strokeCommand, if_pos (sub_eq_zero.mpr hy.symm), Dot.origin, cornerDot, corner,
    if_pos hy]

theorem drawing_upright (hy : a.y ≠ b.y) (hx : a.x = b.x) : drawing a b t =
    [.origin a.x.toNat (min a.y b.y).toNat, .box t (b.y - a.y).natAbs t false] := by
  rw [drawing, strokeCommand, if_neg (sub_ne_zero.mpr hy.symm), if_pos (sub_eq_zero.mpr hx.symm),
    Dot.origin, cornerDot, corner, if_neg hy, if_pos hx]

theorem drawing_slanted (hy : a.y ≠ b.y) (hx : a.x ≠ b.x) : drawing a b t =
    [.origin a.x.toNat a.y.toNat, .diagonal (b.x - a.x) (b.y - a.y) t] := by
  rw [drawing, strokeCommand, if_neg (sub_ne_zero.mpr hy.symm), if_neg (sub_ne_zero.mpr hx.symm),
    Dot.origin, cornerDot, corner, if_neg hy, if_neg hx]

theorem strokeCommand_ne_origin (dx dy : Int) (t x y : Nat) :
    strokeCommand dx dy t ≠ .origin x y := by
  rw [strokeCommand]
  split_ifs <;> simp

theorem cornerDot_add (d s f : Dot) : cornerDot (d + s) (d + f) = d + cornerDot s f := by
  change Dot.mk _ _ = Dot.mk _ _
  simp only [cornerDot, corner, Dot.add_x, Dot.add_y, add_right_inj]
  by_cases hy : s.y = f.y
  · simp only [if_pos hy, min_add_add_left]
  · by_cases hx : s.x = f.x
    · simp only [if_neg hy, if_pos hx, min_add_add_left]
    · simp only [if_neg hy, if_neg hx]

theorem drawing_add (d s f : Dot) (t : Nat) : drawing (d + s) (d + f) t =
    [(d + cornerDot s f).origin, strokeCommand (f.x - s.x) (f.y - s.y) t] := by
  simp only [drawing, cornerDot_add, Dot.add_x, Dot.add_y, add_sub_add_left_eq_sub]

theorem origin_of_isWithin (h : l.position.IsWithin m) (hx : |a.x| ≤ n) (hy : |a.y| ≤ n)
    (hmn : m + n < leastMantissa) : l.origin a.x a.y = .ok (l.position.dot + a).origin := by
  have hm := (abs_nonneg _).trans h.x.le
  obtain ⟨hwx, hmx⟩ := h.x.moved_spec hx (by omega)
  obtain ⟨hwy, hmy⟩ := h.y.moved_spec hy (by omega)
  refine origin_eq_ok.mpr ⟨_, _, _, _, Number.add_int (by omega), hwx.roundDots_eq hmn,
    Number.add_int (by omega), hwy.roundDots_eq hmn, ?_⟩
  rw [hmx, hmy]
  rfl

/-- A line is drawn between its dots, if its stroke has a thickness. -/
theorem commands_of_isWithin (h : l.position.IsWithin m) (hs : l.start.IsWithin n)
    (hf : l.finish.IsWithin n) (hmn : m + n < leastMantissa) :
    l.commands = (thickness l.strokeWidth).map (drawing l.startDot l.finishDot) := by
  have hm := (abs_nonneg _).trans h.x.le
  -- The ends are rounded alone, but only their corner is added to the position.
  have hn : n < leastMantissa := by omega
  have hx₁ : l.start.x.roundHalfUp = .ok l.start.dot.x := hs.x.roundHalfUp_eq hn
  have hy₁ : l.start.y.roundHalfUp = .ok l.start.dot.y := hs.y.roundHalfUp_eq hn
  have hx₂ : l.finish.x.roundHalfUp = .ok l.finish.dot.x := hf.x.roundHalfUp_eq hn
  have hy₂ : l.finish.y.roundHalfUp = .ok l.finish.dot.y := hf.y.roundHalfUp_eq hn
  obtain ⟨hcx, hcy⟩ := corner_le hs.x.le hs.y.le hf.x.le hf.y.le
  have horigin := origin_of_isWithin (a := cornerDot l.start.dot l.finish.dot) h hcx hcy hmn
  cases ht : thickness l.strokeWidth with
  | error e =>
    simp only [commands, hx₁, hy₁, hx₂, hy₂, ht]
    rfl
  | ok t =>
    rw [startDot, finishDot]
    exact commands_eq_ok_from_corner.mpr
      ⟨_, _, _, _, t, _, hx₁, hy₁, hx₂, hy₂, ht, horigin, drawing_add _ _ _ t⟩

/-- What the commands of a line from `a` to `b` say, and those of the line from `b` to `a`. -/
inductive DrawnBothWays (t : Nat) (a b : Dot) : List Command → List Command → Prop
  | level {x y w : Nat} : a.y = b.y → x = min a.x b.x → y = a.y → w = |b.x - a.x| →
    DrawnBothWays t a b [.origin x y, .box w t t false] [.origin x y, .box w t t false]
  | upright {x y h : Nat} : a.y ≠ b.y → a.x = b.x → x = a.x → y = min a.y b.y → h = |b.y - a.y| →
    DrawnBothWays t a b [.origin x y, .box t h t false] [.origin x y, .box t h t false]
  | slanted {x₁ y₁ x₂ y₂ : Nat} {dx dy : Int} : dx ≠ 0 → dy ≠ 0 → x₁ = a.x → y₁ = a.y →
    x₂ = b.x → y₂ = b.y → x₁ + dx = x₂ → y₁ + dy = y₂ →
    DrawnBothWays t a b [.origin x₁ y₁, .diagonal dx dy t] [.origin x₂ y₂, .diagonal (-dx) (-dy) t]

theorem drawnBothWays (ha : a.IsPlaceable) (hb : b.IsPlaceable) :
    DrawnBothWays t a b (drawing a b t) (drawing b a t) := by
  obtain ⟨hax, hay⟩ := ha
  obtain ⟨hbx, hby⟩ := hb
  -- A box has no direction; only a slanted line tells its ends apart.
  by_cases hy : a.y = b.y
  · have hreversed : drawing b a t = drawing a b t := by
      rw [drawing_level hy, drawing_level hy.symm, min_comm, hy, ← Int.natAbs_neg, neg_sub]
    rw [hreversed, drawing_level hy]
    refine .level hy ?_ ?_ (Int.natCast_natAbs _) <;> omega
  · by_cases hx : a.x = b.x
    · have hreversed : drawing b a t = drawing a b t := by
        rw [drawing_upright hy hx, drawing_upright (Ne.symm hy) hx.symm, min_comm, hx,
          ← Int.natAbs_neg, neg_sub]
      rw [hreversed, drawing_upright hy hx]
      refine .upright hy hx ?_ ?_ (Int.natCast_natAbs _) <;> omega
    · rw [drawing_slanted hy hx, drawing_slanted (Ne.symm hy) (Ne.symm hx), ← neg_sub b.x,
        ← neg_sub b.y]
      apply DrawnBothWays.slanted <;> omega

theorem IsWithin.commands_eq (h : l.IsWithin (2 ^ 50)) :
    l.commands = (thickness l.strokeWidth).map (drawing l.startDot l.finishDot) :=
  commands_of_isWithin h.position h.start h.finish (by decide)

/-- A line between dots of the label is drawn from end to end, from either end, exactly if its stroke
has a thickness. -/
theorem drawn_both_ways_iff (h : l.IsWithin (2 ^ 50)) (hstart : l.startDot.IsPlaceable)
    (hfinish : l.finishDot.IsPlaceable) :
    (∃ t cs rs, thickness l.strokeWidth = .ok t ∧ l.commands = .ok cs ∧
      l.reversed.commands = .ok rs ∧ DrawnBothWays t l.startDot l.finishDot cs rs) ↔
        l.strokeWidth.IsBounded := by
  have hreversed : l.reversed.IsWithin (2 ^ 50) := ⟨h.position, h.finish, h.start⟩
  rw [← exists_thickness_iff]
  constructor
  · rintro ⟨t, -, -, ht, -⟩
    exact ⟨t, ht⟩
  · rintro ⟨t, ht⟩
    refine ⟨t, drawing l.startDot l.finishDot t, drawing l.finishDot l.startDot t, ht, ?_, ?_, ?_⟩
    · rw [h.commands_eq, ht]
      rfl
    · rw [hreversed.commands_eq, show thickness l.reversed.strokeWidth = .ok t from ht]
      rfl
    · exact drawnBothWays hstart hfinish

def fallingLine : Line where
  position := ⟨100, .real (.ofRat 100)⟩
  finish := ⟨.real (.ofRat (-40)), 20⟩
  strokeWidth := .real (.ofRat (5 / 2))

theorem fallingLine_drawn : fallingLine.IsWithin (2 ^ 50) ∧ fallingLine.startDot = ⟨100, 100⟩ ∧
    fallingLine.finishDot = ⟨60, 120⟩ ∧ ∃ t cs rs, thickness fallingLine.strokeWidth = .ok t ∧
      fallingLine.commands = .ok cs ∧ fallingLine.reversed.commands = .ok rs ∧
      DrawnBothWays t fallingLine.startDot fallingLine.finishDot cs rs := by
  have hwithin : fallingLine.IsWithin (2 ^ 50) :=
    ⟨by decide +kernel, by decide +kernel, by decide +kernel⟩
  have hstart : fallingLine.startDot = ⟨100, 100⟩ := by decide +kernel
  have hfinish : fallingLine.finishDot = ⟨60, 120⟩ := by decide +kernel
  refine ⟨hwithin, hstart, hfinish, ?_⟩
  apply (drawn_both_ways_iff hwithin (hstart ▸ by decide) (hfinish ▸ by decide)).mpr
  decide +kernel

def hairline : Line where
  position := ⟨0, 0⟩
  strokeWidth := .real (.infinity true)

theorem hairline_not_drawn : hairline.startDot.IsPlaceable ∧ hairline.finishDot.IsPlaceable ∧
    hairline.IsWithin (2 ^ 50) ∧ hairline.commands = .error .infinityToInteger :=
  ⟨by decide +kernel, by decide +kernel,
    ⟨by decide +kernel, by decide +kernel, by decide +kernel⟩, by decide +kernel⟩

/-- The coordinates lie on both sides of an edge of the label. -/
def CrossesEdge (u v : Int) : Prop := min u v < 0 ∧ 0 ≤ max u v

/-- A level or upright line over an edge starts at the edge and is as long as it was: it ends
further in than its end by what lay beyond the edge. -/
theorem keeps_length_at_edge (h : l.IsWithin (2 ^ 50)) :
    (l.startDot.y = l.finishDot.y → CrossesEdge l.startDot.x l.finishDot.x → ∃ length y : Nat,
      (0 + length : Int) = max l.startDot.x l.finishDot.x + |min l.startDot.x l.finishDot.x| ∧
      y = max 0 l.startDot.y ∧ l.commands = (thickness l.strokeWidth).map fun t =>
        [.origin 0 y, .box length t t false]) ∧
    (l.startDot.x = l.finishDot.x → CrossesEdge l.startDot.y l.finishDot.y → ∃ length x : Nat,
      (0 + length : Int) = max l.startDot.y l.finishDot.y + |min l.startDot.y l.finishDot.y| ∧
      x = max 0 l.startDot.x ∧ l.commands = (thickness l.strokeWidth).map fun t =>
        [.origin x 0, .box t length t false]) := by
  rw [h.commands_eq]
  constructor
  · rintro hy ⟨hmin, hmax⟩
    refine ⟨(l.finishDot.x - l.startDot.x).natAbs, l.startDot.y.toNat, ?_, by omega, ?_⟩
    · rw [abs_of_neg hmin]
      omega
    · congr 1
      funext t
      rw [drawing_level hy, Int.toNat_of_nonpos hmin.le]
  · rintro hx ⟨hmin, hmax⟩
    have hy : l.startDot.y ≠ l.finishDot.y := by omega
    refine ⟨(l.finishDot.y - l.startDot.y).natAbs, l.startDot.x.toNat, ?_, by omega, ?_⟩
    · rw [abs_of_neg hmin]
      omega
    · congr 1
      funext t
      rw [drawing_upright hy hx, Int.toNat_of_nonpos hmin.le]

/-- A line of forty dots, half of them to the left of the label. -/
def straddlingLine : Line where
  position := ⟨0, 0⟩
  start := ⟨.int (-20), 0⟩
  finish := ⟨20, 0⟩

theorem straddlingLine_keeps_length : straddlingLine.IsWithin (2 ^ 50) ∧
    CrossesEdge straddlingLine.startDot.x straddlingLine.finishDot.x ∧ ∃ length y : Nat,
      (0 + length : Int) = max straddlingLine.startDot.x straddlingLine.finishDot.x +
        |min straddlingLine.startDot.x straddlingLine.finishDot.x| ∧
      y = max 0 straddlingLine.startDot.y ∧
      straddlingLine.commands = (thickness straddlingLine.strokeWidth).map fun t =>
        [.origin 0 y, .box length t t false] := by
  have hwithin : straddlingLine.IsWithin (2 ^ 50) :=
    ⟨by decide +kernel, by decide +kernel, by decide +kernel⟩
  have hcrosses : CrossesEdge straddlingLine.startDot.x straddlingLine.finishDot.x :=
    ⟨by decide +kernel, by decide +kernel⟩
  exact ⟨hwithin, hcrosses, (keeps_length_at_edge hwithin).1 (by decide +kernel) hcrosses⟩

/-- The line of forty dots from twenty dots before the edge ends at forty, not at twenty. -/
theorem straddlingLine_moves_end : straddlingLine.IsWithin (2 ^ 50) ∧
    straddlingLine.startDot = ⟨-20, 0⟩ ∧ straddlingLine.finishDot = ⟨20, 0⟩ ∧
    straddlingLine.commands = .ok [.origin 0 0, .box 40 1 1 false] ∧
    0 + 40 ≠ straddlingLine.finishDot.x :=
  ⟨⟨by decide +kernel, by decide +kernel, by decide +kernel⟩, by decide +kernel,
    by decide +kernel, by decide +kernel, by decide +kernel⟩

end Line
end LabelPress
