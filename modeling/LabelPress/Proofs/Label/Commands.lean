import LabelPress.Label.Commands
import LabelPress.Proofs.Journal

/-!
# The commands of each element

For every kind of element: which commands it becomes when it becomes any, and what has to succeed
for that. Everything said about the commands of a label is said about these.
-/

namespace LabelPress

theorem Point.origin_eq_ok {p : Point} {c : Command} :
    p.origin = .ok c ↔ ∃ x y, p.rounded = .ok (x, y) ∧ c = .origin x y := by
  simp only [Point.origin, bind_eq_ok, pure_eq_ok, Prod.exists, eq_comm (a := c)]

theorem TextField.commands_eq_ok {t : TextField} {bindings : Entries} {catalog : Option Catalog}
    {scale : Number} {cs : List Command} :
    t.commands bindings catalog scale = .ok cs ↔ ∃ x y content size,
      t.position.rounded = .ok (x, y) ∧ t.content bindings catalog = .ok content ∧
      TextField.scaledSize t.fontSize scale = .ok size ∧
      cs = [.origin x y, .font t.angle.orientation size, .data content] := by
  simp only [TextField.commands, bind_eq_ok, pure_eq_ok, liftArithmetic_eq_ok, Point.origin_eq_ok]
  constructor
  · rintro ⟨_, ⟨x, y, hxy, rfl⟩, content, hcontent, size, hsize, rfl⟩
    exact ⟨x, y, content, size, hxy, hcontent, hsize, rfl⟩
  · rintro ⟨x, y, content, size, hxy, hcontent, hsize, rfl⟩
    exact ⟨_, ⟨x, y, hxy, rfl⟩, content, hcontent, size, hsize, rfl⟩

theorem Rectangle.commands_eq_ok {r : Rectangle} {cs : List Command} :
    r.commands = .ok cs ↔ ∃ x y width height t,
      r.position.rounded = .ok (x, y) ∧ r.width.roundDots = .ok width ∧
      r.height.roundDots = .ok height ∧ thickness r.strokeWidth = .ok t ∧
      cs = [.origin x y, .box width height t r.isFilled] := by
  simp only [Rectangle.commands, bind_eq_ok, pure_eq_ok, Point.origin_eq_ok]
  constructor
  · rintro ⟨_, ⟨x, y, hxy, rfl⟩, width, hwidth, height, hheight, t, ht, rfl⟩
    exact ⟨x, y, width, height, t, hxy, hwidth, hheight, ht, rfl⟩
  · rintro ⟨x, y, width, height, t, hxy, hwidth, hheight, ht, rfl⟩
    exact ⟨_, ⟨x, y, hxy, rfl⟩, width, hwidth, height, hheight, t, ht, rfl⟩

/-- A line is drawn in one of three ways, by which coordinates its rounded ends share. -/
theorem Line.commands_eq_ok {l : Line} {cs : List Command} :
    l.commands = .ok cs ↔ ∃ x₁ y₁ x₂ y₂ t origin,
      l.start.x.roundHalfUp = .ok x₁ ∧ l.start.y.roundHalfUp = .ok y₁ ∧
      l.finish.x.roundHalfUp = .ok x₂ ∧ l.finish.y.roundHalfUp = .ok y₂ ∧
      thickness l.strokeWidth = .ok t ∧
      (y₁ = y₂ ∧ l.origin (min x₁ x₂) y₁ = .ok origin ∧
          cs = [origin, .box (x₂ - x₁).natAbs t t false] ∨
        y₁ ≠ y₂ ∧ x₁ = x₂ ∧ l.origin x₁ (min y₁ y₂) = .ok origin ∧
          cs = [origin, .box t (y₂ - y₁).natAbs t false] ∨
        y₁ ≠ y₂ ∧ x₁ ≠ x₂ ∧ l.origin x₁ y₁ = .ok origin ∧
          cs = [origin, .diagonal (x₂ - x₁) (y₂ - y₁) t]) := by
  simp only [Line.commands, bind_eq_ok, pure_eq_ok, ite_eq_iff]
  constructor
  · rintro ⟨x₁, hx₁, y₁, hy₁, x₂, hx₂, y₂, hy₂, t, ht, h⟩
    rcases h with ⟨hy, o, ho, hcs⟩ | ⟨hy, ⟨hx, o, ho, hcs⟩ | ⟨hx, o, ho, hcs⟩⟩
    · exact ⟨x₁, y₁, x₂, y₂, t, o, hx₁, hy₁, hx₂, hy₂, ht, .inl ⟨hy, ho, hcs.symm⟩⟩
    · exact ⟨x₁, y₁, x₂, y₂, t, o, hx₁, hy₁, hx₂, hy₂, ht, .inr (.inl ⟨hy, hx, ho, hcs.symm⟩)⟩
    · exact ⟨x₁, y₁, x₂, y₂, t, o, hx₁, hy₁, hx₂, hy₂, ht, .inr (.inr ⟨hy, hx, ho, hcs.symm⟩)⟩
  · rintro ⟨x₁, y₁, x₂, y₂, t, o, hx₁, hy₁, hx₂, hy₂, ht, h⟩
    refine ⟨x₁, hx₁, y₁, hy₁, x₂, hx₂, y₂, hy₂, t, ht, ?_⟩
    rcases h with ⟨hy, ho, hcs⟩ | ⟨hy, hx, ho, hcs⟩ | ⟨hy, hx, ho, hcs⟩
    · exact .inl ⟨hy, o, ho, hcs.symm⟩
    · exact .inr ⟨hy, .inl ⟨hx, o, ho, hcs.symm⟩⟩
    · exact .inr ⟨hy, .inr ⟨hx, o, ho, hcs.symm⟩⟩

theorem Line.origin_eq_ok {l : Line} {x y : Int} {c : Command} :
    l.origin x y = .ok c ↔ ∃ px py ox oy,
      l.position.x.add (.int x) = .ok px ∧ px.roundDots = .ok ox ∧
      l.position.y.add (.int y) = .ok py ∧ py.roundDots = .ok oy ∧ c = .origin ox oy := by
  simp only [Line.origin, bind_eq_ok, pure_eq_ok, eq_comm (a := c)]
  constructor
  · rintro ⟨px, hpx, ox, hox, py, hpy, oy, hoy, hc⟩
    exact ⟨px, py, ox, oy, hpx, hox, hpy, hoy, hc⟩
  · rintro ⟨px, py, ox, oy, hpx, hox, hpy, hoy, hc⟩
    exact ⟨px, hpx, ox, hox, py, hpy, oy, hoy, hc⟩

theorem Line.exists_of_origin {l : Line} {x y : Int} {c : Command} (h : l.origin x y = .ok c) :
    ∃ ox oy, c = .origin ox oy := by
  obtain ⟨_, _, ox, oy, -, -, -, -, rfl⟩ := origin_eq_ok.mp h
  exact ⟨ox, oy, rfl⟩

theorem Circle.commands_eq_ok {c : Circle} {cs : List Command} :
    c.commands = .ok cs ↔ ∃ x y t radius,
      c.position.rounded = .ok (x, y) ∧ thickness c.strokeWidth = .ok t ∧
      c.radius.roundDots = .ok radius ∧
      (c.isEllipse = true ∧ (∃ radiusY, (c.radiusY.getD c.radius).roundDots = .ok radiusY ∧
          cs = [.origin x y, .ellipse (radius * 2) (radiusY * 2) t]) ∨
        c.isEllipse = false ∧ cs = [.origin x y, .circle (radius * 2) t]) := by
  simp only [Circle.commands, bind_eq_ok, pure_eq_ok, Point.origin_eq_ok, ite_eq_iff,
    Bool.not_eq_true]
  constructor
  · rintro ⟨_, ⟨x, y, hxy, rfl⟩, t, ht, radius, hradius, h⟩
    rcases h with ⟨he, ry, hry, hcs⟩ | ⟨he, hcs⟩
    · exact ⟨x, y, t, radius, hxy, ht, hradius, .inl ⟨he, ry, hry, hcs.symm⟩⟩
    · exact ⟨x, y, t, radius, hxy, ht, hradius, .inr ⟨he, hcs.symm⟩⟩
  · rintro ⟨x, y, t, radius, hxy, ht, hradius, h⟩
    refine ⟨_, ⟨x, y, hxy, rfl⟩, t, ht, radius, hradius, ?_⟩
    rcases h with ⟨he, ry, hry, hcs⟩ | ⟨he, hcs⟩
    · exact .inl ⟨he, ry, hry, hcs.symm⟩
    · exact .inr ⟨he, hcs.symm⟩

namespace Media
variable {m : Media} {bindings : Entries} {catalog : Option Catalog} {cs : List Command}

theorem barcodeCommands_eq_ok {symbology : Symbology} {value : Option Text} :
    m.barcodeCommands symbology value bindings catalog = .ok cs ↔ ∃ x y content height,
      m.position.rounded = .ok (x, y) ∧
      m.symbolText value defaultBarcodeValue bindings catalog = .ok content ∧
      m.barHeight = .ok height ∧
      cs = [.origin x y, .barcode symbology m.angle.orientation height, .data content] := by
  simp only [barcodeCommands, bind_eq_ok, pure_eq_ok, liftArithmetic_eq_ok, Point.origin_eq_ok]
  constructor
  · rintro ⟨_, ⟨x, y, hxy, rfl⟩, content, hcontent, height, hheight, rfl⟩
    exact ⟨x, y, content, height, hxy, hcontent, hheight, rfl⟩
  · rintro ⟨x, y, content, height, hxy, hcontent, hheight, rfl⟩
    exact ⟨_, ⟨x, y, hxy, rfl⟩, content, hcontent, height, hheight, rfl⟩

theorem qrCommands_eq_ok {value : Option Text} :
    m.qrCommands value bindings catalog = .ok cs ↔ ∃ x y content magnification,
      m.position.rounded = .ok (x, y) ∧
      m.symbolText value defaultQrValue bindings catalog = .ok content ∧
      m.magnification = .ok magnification ∧
      cs = [.origin x y, .qr magnification, .data (qrMode ++ content)] := by
  simp only [qrCommands, bind_eq_ok, pure_eq_ok, liftArithmetic_eq_ok, Point.origin_eq_ok]
  constructor
  · rintro ⟨_, ⟨x, y, hxy, rfl⟩, content, hcontent, magnification, hmagnification, rfl⟩
    exact ⟨x, y, content, magnification, hxy, hcontent, hmagnification, rfl⟩
  · rintro ⟨x, y, content, magnification, hxy, hcontent, hmagnification, rfl⟩
    exact ⟨_, ⟨x, y, hxy, rfl⟩, content, hcontent, magnification, hmagnification, rfl⟩

theorem rasterCommands_eq_ok :
    m.rasterCommands = .ok cs ↔ ∃ x y, m.position.rounded = .ok (x, y) ∧
      cs = [.origin x y, .box 100 100 2 false, .origin (x + 10) (y + 40), .imageMarker] := by
  simp only [rasterCommands, bind_eq_ok, pure_eq_ok, Prod.exists, eq_comm (a := cs)]

theorem commands_eq_ok :
    (m.commands bindings catalog).outcome = .ok cs ↔
      match m.payload with
      | .barcode format value => match Symbology.ofName? (Payload.formatName format) with
        | none => cs = []
        | some symbology => m.barcodeCommands symbology value bindings catalog = .ok cs
      | .qr value => m.qrCommands value bindings catalog = .ok cs
      | .raster _ => m.rasterCommands = .ok cs := by
  unfold commands
  cases m.payload with
  | barcode format value =>
    dsimp only
    cases Symbology.ofName? (Payload.formatName format) with
    | none => exact ⟨fun h => (Except.ok.inj h).symm, fun h => h ▸ rfl⟩
    | some symbology => rfl
  | qr value => rfl
  | raster source => exact Journaled.outcome_ofArithmetic_eq_ok

end Media

end LabelPress
