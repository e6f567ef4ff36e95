import LabelPress.Proofs.Label.References
import LabelPress.Proofs.Label.Target
import LabelPress.Proofs.Number
import LabelPress.Proofs.Value.Text

/-!
# Elements that can be printed

An element can be printed exactly if the numbers that its commands are made of can be rounded to
whole dots, and the value bound to its field has a text. Nothing else that it holds can be in the
way, and nothing at all where no command is made.
-/

namespace LabelPress

/-- Both coordinates can be rounded to whole dots. -/
structure Point.IsBounded (p : Point) : Prop where
  x : p.x.IsBounded
  y : p.y.IsBounded

theorem Point.exists_rounded_iff {p : Point} :
    (∃ x y, p.rounded = .ok (x, y)) ↔ p.IsBounded := by
  simp only [rounded, bind_eq_ok, pure_eq_ok, Prod.mk.injEq]
  constructor
  · rintro ⟨_, _, x, hx, y, hy, -, -⟩
    exact ⟨Number.exists_roundDots_iff.mp ⟨x, hx⟩, Number.exists_roundDots_iff.mp ⟨y, hy⟩⟩
  · intro h
    obtain ⟨x, hx⟩ := Number.exists_roundDots_iff.mpr h.x
    obtain ⟨y, hy⟩ := Number.exists_roundDots_iff.mpr h.y
    exact ⟨x, y, x, hx, y, hy, rfl, rfl⟩

theorem isBounded_one : (1 : Number).IsBounded := by decide +kernel

theorem exists_thickness_iff {strokeWidth : Number} :
    (∃ t, thickness strokeWidth = .ok t) ↔ strokeWidth.IsBounded := by
  rw [← Number.isBounded_orElse isBounded_one, ← Number.exists_roundHalfUp_iff]
  exact exists_bind_pure_eq_ok

def Element.ShowsValue (bindings : Entries) (e : Element) : Prop :=
  ∀ key v, e.key? = some key → bindings.bound? key = some v → ∃ s, v.printed = .ok s

theorem exists_fieldText?_iff {key : Text} {bindings : Entries} :
    (∃ s, fieldText? key bindings none = .ok s) ↔
      ∀ v, bindings.bound? key = some v → ∃ s, v.printed = .ok s := by
  unfold fieldText?
  cases bindings.bound? key with
  | none => simp [specOf?]
  | some v => cases hv : v.printed <;> simp [specOf?, renderBound, hv, Except.mapError, Except.map]

theorem Element.showsValue_iff {e : Element} {key : Text} {bindings : Entries}
    (hkey : e.key? = some key) :
    e.ShowsValue bindings ↔ ∀ v, bindings.bound? key = some v → ∃ s, v.printed = .ok s := by
  simp only [ShowsValue, hkey, Option.some.injEq]
  exact ⟨fun h v => h key v rfl, fun h _ v heq => heq ▸ h v⟩

namespace TextField

structure IsBounded (t : TextField) (scale : Number) : Prop where
  position : t.position.IsBounded
  size : GivesDots ((t.fontSize.orElse defaultSize).mul scale)

theorem exists_content_iff {t : TextField} {bindings : Entries} :
    (∃ s, t.content bindings none = .ok s) ↔ (Element.text t).ShowsValue bindings := by
  rw [content_eq]
  cases hkey : (Element.text t).key? with
  | none => simp [Element.ShowsValue, hkey]
  | some key =>
    rw [Element.showsValue_iff hkey, ← exists_fieldText?_iff]
    exact exists_bind_pure_eq_ok

theorem exists_commands_iff {t : TextField} {bindings : Entries} {scale : Number} :
    (∃ cs, t.commands bindings none scale = .ok cs) ↔
      t.IsBounded scale ∧ (Element.text t).ShowsValue bindings := by
  simp only [commands_eq_ok, ← exists_content_iff]
  constructor
  · rintro ⟨_, x, y, content, size, hxy, hcontent, hsize, -⟩
    exact ⟨⟨Point.exists_rounded_iff.mp ⟨x, y, hxy⟩, givesDots_iff.mpr ⟨size, hsize⟩⟩,
      content, hcontent⟩
  · rintro ⟨hbounded, content, hcontent⟩
    obtain ⟨x, y, hxy⟩ := Point.exists_rounded_iff.mpr hbounded.position
    obtain ⟨size, hsize⟩ := givesDots_iff.mp hbounded.size
    exact ⟨_, x, y, content, size, hxy, hcontent, hsize, rfl⟩

end TextField

namespace Rectangle

structure IsBounded (r : Rectangle) : Prop where
  position : r.position.IsBounded
  width : r.width.IsBounded
  height : r.height.IsBounded
  strokeWidth : r.strokeWidth.IsBounded

theorem exists_commands_iff {r : Rectangle} : (∃ cs, r.commands = .ok cs) ↔ r.IsBounded := by
  simp only [commands_eq_ok]
  constructor
  · rintro ⟨_, x, y, width, height, t, hxy, hwidth, hheight, ht, -⟩
    exact ⟨Point.exists_rounded_iff.mp ⟨x, y, hxy⟩, Number.exists_roundDots_iff.mp ⟨width, hwidth⟩,
      Number.exists_roundDots_iff.mp ⟨height, hheight⟩, exists_thickness_iff.mp ⟨t, ht⟩⟩
  · intro h
    obtain ⟨x, y, hxy⟩ := Point.exists_rounded_iff.mpr h.position
    obtain ⟨width, hwidth⟩ := Number.exists_roundDots_iff.mpr h.width
    obtain ⟨height, hheight⟩ := Number.exists_roundDots_iff.mpr h.height
    obtain ⟨t, ht⟩ := exists_thickness_iff.mpr h.strokeWidth
    exact ⟨_, x, y, width, height, t, hxy, hwidth, hheight, ht, rfl⟩

end Rectangle

namespace Line

def corner (x₁ y₁ x₂ y₂ : Int) : Int × Int :=
  if y₁ = y₂ then (min x₁ x₂, y₁) else if x₁ = x₂ then (x₁, min y₁ y₂) else (x₁, y₁)

theorem corner_le {x₁ y₁ x₂ y₂ b : Int} (hx₁ : |x₁| ≤ b) (hy₁ : |y₁| ≤ b) (hx₂ : |x₂| ≤ b)
    (hy₂ : |y₂| ≤ b) : |(corner x₁ y₁ x₂ y₂).1| ≤ b ∧ |(corner x₁ y₁ x₂ y₂).2| ≤ b := by
  simp only [abs_le] at *
  unfold corner
  split_ifs <;> dsimp only <;> omega

def strokeCommand (dx dy : Int) (t : Nat) : Command :=
  if dy = 0 then .box dx.natAbs t t false
  else if dx = 0 then .box t dy.natAbs t false
  else .diagonal dx dy t

/-- The three ways of drawing a line have in common that it starts from its corner. -/
theorem commands_eq_ok_from_corner {l : Line} {cs : List Command} :
    l.commands = .ok cs ↔ ∃ x₁ y₁ x₂ y₂ t origin,
      l.start.x.roundHalfUp = .ok x₁ ∧ l.start.y.roundHalfUp = .ok y₁ ∧
      l.finish.x.roundHalfUp = .ok x₂ ∧ l.finish.y.roundHalfUp = .ok y₂ ∧
      thickness l.strokeWidth = .ok t ∧
      l.origin (corner x₁ y₁ x₂ y₂).1 (corner x₁ y₁ x₂ y₂).2 = .ok origin ∧
      cs = [origin, strokeCommand (x₂ - x₁) (y₂ - y₁) t] := by
  have hways : ∀ (x₁ y₁ x₂ y₂ : Int) (t : Nat) (origin : Command),
      (y₁ = y₂ ∧ l.origin (min x₁ x₂) y₁ = .ok origin ∧
          cs = [origin, .box (x₂ - x₁).natAbs t t false] ∨
        y₁ ≠ y₂ ∧ x₁ = x₂ ∧ l.origin x₁ (min y₁ y₂) = .ok origin ∧
          cs = [origin, .box t (y₂ - y₁).natAbs t false] ∨
        y₁ ≠ y₂ ∧ x₁ ≠ x₂ ∧ l.origin x₁ y₁ = .ok origin ∧
          cs = [origin, .diagonal (x₂ - x₁) (y₂ - y₁) t]) ↔
      l.origin (corner x₁ y₁ x₂ y₂).1 (corner x₁ y₁ x₂ y₂).2 = .ok origin ∧
        cs = [origin, strokeCommand (x₂ - x₁) (y₂ - y₁) t] := by
    intro x₁ y₁ x₂ y₂ t origin
    rw [corner, strokeCommand]
    by_cases hy : y₁ = y₂
    · rw [if_pos hy, if_pos (sub_eq_zero.mpr hy.symm)]
      simp [hy]
    · rw [if_neg hy, if_neg (sub_ne_zero.mpr (Ne.symm hy))]
      by_cases hx : x₁ = x₂
      · rw [if_pos hx, if_pos (sub_eq_zero.mpr hx.symm)]
        simp [hy, hx]
      · rw [if_neg hx, if_neg (sub_ne_zero.mpr (Ne.symm hx))]
        simp [hy, hx]
  simp only [commands_eq_ok, hways]

structure IsBounded (l : Line) : Prop where
  start : l.start.IsBounded
  finish : l.finish.IsBounded
  strokeWidth : l.strokeWidth.IsBounded
  corner : ∀ x₁ y₁ x₂ y₂, l.start.x.roundHalfUp = .ok x₁ → l.start.y.roundHalfUp = .ok y₁ →
    l.finish.x.roundHalfUp = .ok x₂ → l.finish.y.roundHalfUp = .ok y₂ →
    GivesDots (l.position.x.add (.int (corner x₁ y₁ x₂ y₂).1)) ∧
      GivesDots (l.position.y.add (.int (corner x₁ y₁ x₂ y₂).2))

theorem exists_origin_iff {l : Line} {x y : Int} :
    (∃ c, l.origin x y = .ok c) ↔
      GivesDots (l.position.x.add (.int x)) ∧ GivesDots (l.position.y.add (.int y)) := by
  simp only [origin_eq_ok, GivesDots]
  constructor
  · rintro ⟨_, px, py, ox, oy, hpx, hox, hpy, hoy, -⟩
    exact ⟨⟨px, hpx, Number.exists_roundDots_iff.mp ⟨ox, hox⟩⟩,
      py, hpy, Number.exists_roundDots_iff.mp ⟨oy, hoy⟩⟩
  · rintro ⟨⟨px, hpx, hx⟩, py, hpy, hy⟩
    obtain ⟨ox, hox⟩ := Number.exists_roundDots_iff.mpr hx
    obtain ⟨oy, hoy⟩ := Number.exists_roundDots_iff.mpr hy
    exact ⟨_, px, py, ox, oy, hpx, hox, hpy, hoy, rfl⟩

theorem exists_commands_iff {l : Line} : (∃ cs, l.commands = .ok cs) ↔ l.IsBounded := by
  simp only [commands_eq_ok_from_corner]
  constructor
  · rintro ⟨_, x₁, y₁, x₂, y₂, t, o, hx₁, hy₁, hx₂, hy₂, ht, horigin, -⟩
    refine ⟨⟨?_, ?_⟩, ⟨?_, ?_⟩, exists_thickness_iff.mp ⟨t, ht⟩, ?_⟩
    · exact Number.exists_roundHalfUp_iff.mp ⟨x₁, hx₁⟩
    · exact Number.exists_roundHalfUp_iff.mp ⟨y₁, hy₁⟩
    · exact Number.exists_roundHalfUp_iff.mp ⟨x₂, hx₂⟩
    · exact Number.exists_roundHalfUp_iff.mp ⟨y₂, hy₂⟩
    · intro _ _ _ _ hx₁' hy₁' hx₂' hy₂'
      cases hx₁.symm.trans hx₁'
      cases hy₁.symm.trans hy₁'
      cases hx₂.symm.trans hx₂'
      cases hy₂.symm.trans hy₂'
      exact exists_origin_iff.mp ⟨o, horigin⟩
  · intro h
    obtain ⟨x₁, hx₁⟩ := Number.exists_roundHalfUp_iff.mpr h.start.x
    obtain ⟨y₁, hy₁⟩ := Number.exists_roundHalfUp_iff.mpr h.start.y
    obtain ⟨x₂, hx₂⟩ := Number.exists_roundHalfUp_iff.mpr h.finish.x
    obtain ⟨y₂, hy₂⟩ := Number.exists_roundHalfUp_iff.mpr h.finish.y
    obtain ⟨t, ht⟩ := exists_thickness_iff.mpr h.strokeWidth
    obtain ⟨o, ho⟩ := exists_origin_iff.mpr (h.corner x₁ y₁ x₂ y₂ hx₁ hy₁ hx₂ hy₂)
    exact ⟨_, x₁, y₁, x₂, y₂, t, o, hx₁, hy₁, hx₂, hy₂, ht, ho, rfl⟩

end Line

namespace Circle

structure IsBounded (c : Circle) : Prop where
  position : c.position.IsBounded
  strokeWidth : c.strokeWidth.IsBounded
  radius : c.radius.IsBounded
  radiusY : ∀ r, c.radiusY = some r → r.IsBounded

theorem exists_commands_iff {c : Circle} : (∃ cs, c.commands = .ok cs) ↔ c.IsBounded := by
  simp only [commands_eq_ok]
  constructor
  · rintro ⟨_, x, y, t, radius, hxy, ht, hradius, h⟩
    have hbounded := Number.exists_roundDots_iff.mp ⟨radius, hradius⟩
    refine ⟨Point.exists_rounded_iff.mp ⟨x, y, hxy⟩, exists_thickness_iff.mp ⟨t, ht⟩, hbounded, ?_⟩
    intro r hr
    rcases h with ⟨-, ry, hry, -⟩ | ⟨he, -⟩
    · rw [hr] at hry
      exact Number.exists_roundDots_iff.mp ⟨ry, hry⟩
    · -- A second radius that makes no ellipse has the value of the first.
      have hsame : r.same c.radius = true := by simpa [isEllipse, hr] using he
      exact Number.isBounded_of_same hsame hbounded
  · intro h
    obtain ⟨x, y, hxy⟩ := Point.exists_rounded_iff.mpr h.position
    obtain ⟨t, ht⟩ := exists_thickness_iff.mpr h.strokeWidth
    obtain ⟨radius, hradius⟩ := Number.exists_roundDots_iff.mpr h.radius
    have hsecond : (c.radiusY.getD c.radius).IsBounded := by
      cases hr : c.radiusY with
      | none => exact h.radius
      | some r => exact h.radiusY r hr
    obtain ⟨ry, hry⟩ := Number.exists_roundDots_iff.mpr hsecond
    cases he : c.isEllipse with
    | true => exact ⟨_, x, y, t, radius, hxy, ht, hradius, .inl ⟨rfl, ry, hry, rfl⟩⟩
    | false => exact ⟨_, x, y, t, radius, hxy, ht, hradius, .inr ⟨rfl, rfl⟩⟩

end Circle

namespace Media
variable {m : Media} {bindings : Entries}

theorem exists_barHeight_iff : (∃ n, m.barHeight = .ok n) ↔ m.height.IsBounded :=
  exists_bind_pure_eq_ok.trans Number.exists_roundDots_iff

def HasModules (m : Media) : Prop :=
  ∃ q, (m.width.orElse 100).div pixelsPerModule = .ok q ∧ q.isFinite = true

theorem exists_magnification_iff : (∃ n, m.magnification = .ok n) ↔ m.HasModules := by
  have hround : ∀ q, (∃ n, (Number.real q).roundHalfUp = .ok n) ↔ q.isFinite = true :=
    fun q => Number.exists_roundHalfUp_iff
  simp only [magnification, HasModules, bind_eq_ok, pure_eq_ok, ← hround]
  constructor
  · rintro ⟨_, q, hq, n, hn, -⟩
    exact ⟨q, hq, n, hn⟩
  · rintro ⟨q, hq, n, hn⟩
    exact ⟨_, q, hq, n, hn, rfl⟩

theorem exists_symbolText_iff {value : Option Text}
    (hvalue : (Element.media m).key? = m.key value) (default : Text) :
    (∃ s, m.symbolText value default bindings none = .ok s) ↔
      (Element.media m).ShowsValue bindings := by
  unfold symbolText
  cases hkey : m.key value with
  | none =>
    refine iff_of_true ⟨_, rfl⟩ fun key v hshown => ?_
    rw [hvalue, hkey] at hshown
    cases hshown
  | some key =>
    rw [Element.showsValue_iff (hvalue.trans hkey), ← exists_fieldText?_iff]
    exact exists_bind_pure_eq_ok

def IsPrintable (bindings : Entries) (m : Media) : Prop :=
  match m.payload with
  | .barcode format _ => (Symbology.ofName? (Payload.formatName format)).isSome = true →
    m.position.IsBounded ∧ m.height.IsBounded ∧ (Element.media m).ShowsValue bindings
  | .qr _ => m.position.IsBounded ∧ m.HasModules ∧ (Element.media m).ShowsValue bindings
  | .raster _ => m.position.IsBounded

theorem exists_barcodeCommands_iff {symbology : Symbology} {value : Option Text}
    (hvalue : (Element.media m).key? = m.key value) :
    (∃ cs, m.barcodeCommands symbology value bindings none = .ok cs) ↔
      m.position.IsBounded ∧ m.height.IsBounded ∧ (Element.media m).ShowsValue bindings := by
  simp only [barcodeCommands_eq_ok, ← exists_symbolText_iff hvalue defaultBarcodeValue,
    ← exists_barHeight_iff, ← Point.exists_rounded_iff]
  constructor
  · rintro ⟨_, x, y, content, height, hxy, hcontent, hheight, -⟩
    exact ⟨⟨x, y, hxy⟩, ⟨height, hheight⟩, content, hcontent⟩
  · rintro ⟨⟨x, y, hxy⟩, ⟨height, hheight⟩, content, hcontent⟩
    exact ⟨_, x, y, content, height, hxy, hcontent, hheight, rfl⟩

theorem exists_qrCommands_iff {value : Option Text}
    (hvalue : (Element.media m).key? = m.key value) :
    (∃ cs, m.qrCommands value bindings none = .ok cs) ↔
      m.position.IsBounded ∧ m.HasModules ∧ (Element.media m).ShowsValue bindings := by
  simp only [qrCommands_eq_ok, ← exists_symbolText_iff hvalue defaultQrValue,
    ← exists_magnification_iff, ← Point.exists_rounded_iff]
  constructor
  · rintro ⟨_, x, y, content, magnification, hxy, hcontent, hmagnification, -⟩
    exact ⟨⟨x, y, hxy⟩, ⟨magnification, hmagnification⟩, content, hcontent⟩
  · rintro ⟨⟨x, y, hxy⟩, ⟨magnification, hmagnification⟩, content, hcontent⟩
    exact ⟨_, x, y, content, magnification, hxy, hcontent, hmagnification, rfl⟩

theorem exists_rasterCommands_iff :
    (∃ cs, m.rasterCommands = .ok cs) ↔ m.position.IsBounded := by
  simp only [rasterCommands_eq_ok, ← Point.exists_rounded_iff]
  constructor
  · rintro ⟨_, x, y, hxy, -⟩
    exact ⟨x, y, hxy⟩
  · rintro ⟨x, y, hxy⟩
    exact ⟨_, x, y, hxy, rfl⟩

theorem exists_commands_iff :
    (∃ cs, (m.commands bindings none).outcome = .ok cs) ↔ m.IsPrintable bindings := by
  simp only [commands_eq_ok, IsPrintable]
  cases hp : m.payload with
  | barcode format value =>
    have hvalue : (Element.media m).key? = m.key value := by simp only [Element.key?, hp]
    dsimp only
    cases Symbology.ofName? (Payload.formatName format) with
    | none => simp
    | some symbology => simp [exists_barcodeCommands_iff hvalue]
  | qr value =>
    have hvalue : (Element.media m).key? = m.key value := by simp only [Element.key?, hp]
    exact exists_qrCommands_iff hvalue
  | raster source => exact exists_rasterCommands_iff

end Media

def Element.IsPrintable (bindings : Entries) (scale : Number) (e : Element) : Prop :=
  match e with
  | text t => t.IsBounded scale ∧ (text t).ShowsValue bindings
  | rectangle r => r.IsBounded
  | line l => l.IsBounded
  | circle c => c.IsBounded
  | media m => m.IsPrintable bindings

theorem Element.exists_commands_iff {e : Element} {bindings : Entries} {scale : Number} :
    (∃ cs, (e.commands bindings none scale).outcome = .ok cs) ↔ e.IsPrintable bindings scale := by
  simp only [commands_eq_ok]
  cases e with
  | text t => exact TextField.exists_commands_iff
  | rectangle r => exact Rectangle.exists_commands_iff
  | line l => exact Line.exists_commands_iff
  | circle c => exact Circle.exists_commands_iff
  | media m => exact Media.exists_commands_iff

namespace Target
variable {t : Target} {bindings : Entries}

theorem exists_encode_iff {e : Element} (hcatalog : t.catalog = none) :
    (∃ cs, (t.encode bindings e).outcome = .ok cs) ↔
      (e.isGuide t.guideColor = false → e.IsPrintable bindings t.fontScale) := by
  simp only [encode_eq_ok, hcatalog]
  cases hguide : e.isGuide t.guideColor with
  | true => simp
  | false => simp [Element.exists_commands_iff]

/-- A design is compiled exactly if its page and its copies can be written and every element that is
no guide can be printed. -/
theorem exists_compile_iff {d : Design} (hcatalog : t.catalog = none) :
    (∃ label, (t.compile bindings d).outcome = .ok label) ↔
      hasIntegerText d.page.width = true ∧ hasIntegerText d.page.height = true ∧
      (∀ e ∈ d.elements, e.isGuide t.guideColor = false → e.IsPrintable bindings t.fontScale) ∧
      (t.copies = 1 ∨ hasIntegerText t.copies = true) := by
  simp only [← exists_encode_iff hcatalog, ← exists_forall₂_iff, compile_eq_ok]
  constructor
  · rintro ⟨_, parts, hwidth, hheight, hparts, hcopies, -⟩
    exact ⟨hwidth, hheight, ⟨parts, hparts⟩, hcopies⟩
  · rintro ⟨hwidth, hheight, ⟨parts, hparts⟩, hcopies⟩
    exact ⟨_, parts, hwidth, hheight, hparts, hcopies, rfl⟩

end Target
end LabelPress
