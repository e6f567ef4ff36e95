import LabelPress.Label.Target
import LabelPress.Proofs.Label.Strokes

/-!
# Elements that are moved

Moving an element by whole dots moves the commands that place it by as many, as long as it stays on
the label. Nothing else about its commands depends on the position, and neither do its faults and
notes.
-/

namespace LabelPress

/-- The second command places by as much further as a way leads; what places nothing stays. -/
inductive Command.MovesTo (d : Dot) : Command → Command → Prop
  | origin {x y x' y' : Nat} (hx : x' = x + d.x) (hy : y' = y + d.y) :
    MovesTo d (.origin x y) (.origin x' y')
  | other {c : Command} (h : ∀ x y, c ≠ .origin x y) : MovesTo d c c

namespace Element

def placed (p : Point) : Element → Element
  | text t => text { t with position := p }
  | rectangle r => rectangle { r with position := p }
  | line l => line { l with position := p }
  | circle c => circle { c with position := p }
  | media m => media { m with position := p }

def moved (d : Dot) (e : Element) : Element := e.placed (e.position.moved d)

def IsWithin (b : Int) : Element → Prop
  | line l => l.IsWithin b
  | e => e.position.IsWithin b

def originDot : Element → Dot
  | line l => l.position.dot + Line.cornerDot l.start.dot l.finish.dot
  | e => e.position.dot

variable {e : Element} {b : Int}

theorem IsWithin.position (h : e.IsWithin b) : e.position.IsWithin b := by
  cases e with
  | line l => exact Line.IsWithin.position h
  | _ => exact h

theorem isGuide_placed (p : Point) (color : Text) : (e.placed p).isGuide color = e.isGuide color := by
  cases e <;> rfl

theorem kind_placed (p : Point) : (e.placed p).kind = e.kind := by
  cases e <;> rfl

end Element

/-- The second pair of dots lies as much further as a way leads. -/
def Shifts (d : Dot) (a b : Nat × Nat) : Prop := b.1 = a.1 + d.x ∧ b.2 = a.2 + d.y

section Moves
open Command (MovesTo)
variable {a b d : Dot} {p : Point} {bindings : Entries} {catalog : Option Catalog} {scale : Number}

theorem Dot.origin_moves (ha : a.IsPlaceable) (hb : b.IsPlaceable) (hx : b.x = a.x + d.x)
    (hy : b.y = a.y + d.y) : MovesTo d a.origin b.origin := by
  obtain ⟨hax, hay⟩ := ha
  obtain ⟨hbx, hby⟩ := hb
  apply MovesTo.origin <;> omega

theorem Point.rounded_shifts {q : Point} (hp : p.IsWithin (2 ^ 50)) (hq : q.IsWithin (2 ^ 51))
    (hbefore : p.dot.IsPlaceable) (hafter : q.dot.IsPlaceable) (hdot : q.dot = p.dot + d) :
    Alike (Shifts d) p.rounded q.rounded := by
  rw [hp.rounded_eq (by decide), hq.rounded_eq (by decide)]
  apply Alike.ok
  rw [hdot] at hafter ⊢
  rw [Shifts, Int.toNat_of_nonneg hbefore.x, Int.toNat_of_nonneg hbefore.y,
    Int.toNat_of_nonneg hafter.x, Int.toNat_of_nonneg hafter.y]
  exact ⟨rfl, rfl⟩

theorem Point.origin_moves {q : Point} (h : Alike (Shifts d) p.rounded q.rounded) :
    Alike (MovesTo d) p.origin q.origin :=
  h.bind fun _ _ hab => .ok (.origin hab.1 hab.2)

theorem TextField.commands_move {t : TextField}
    (h : Alike (Shifts d) t.position.rounded p.rounded) :
    Alike (List.Forall₂ (MovesTo d)) (t.commands bindings catalog scale)
      ({ t with position := p }.commands bindings catalog scale) := by
  apply (Point.origin_moves h).liftArithmetic.bind
  intro o o' ho
  apply Alike.bind_self
  intro content
  apply Alike.bind_self
  intro size
  exact .ok (.cons ho (.cons (.other nofun) (.cons (.other nofun) .nil)))

theorem Rectangle.commands_move {r : Rectangle}
    (h : Alike (Shifts d) r.position.rounded p.rounded) :
    Alike (List.Forall₂ (MovesTo d)) r.commands { r with position := p }.commands := by
  apply (Point.origin_moves h).bind
  intro o o' ho
  apply Alike.bind_self
  intro width
  apply Alike.bind_self
  intro height
  apply Alike.bind_self
  intro t
  exact .ok (.cons ho (.cons (.other nofun) .nil))

theorem Circle.commands_move {c : Circle} (h : Alike (Shifts d) c.position.rounded p.rounded) :
    Alike (List.Forall₂ (MovesTo d)) c.commands { c with position := p }.commands := by
  apply (Point.origin_moves h).bind
  intro o o' ho
  apply Alike.bind_self
  intro t
  apply Alike.bind_self
  intro radius
  have hellipse : Circle.isEllipse { c with position := p } = c.isEllipse := rfl
  rw [hellipse]
  cases c.isEllipse with
  | false => exact .ok (.cons ho (.cons (.other nofun) .nil))
  | true =>
    apply Alike.bind_self
    intro second
    exact .ok (.cons ho (.cons (.other nofun) .nil))

namespace Media
variable {m : Media}

theorem barcodeCommands_move {symbology : Symbology} {value : Option Text}
    (h : Alike (Shifts d) m.position.rounded p.rounded) :
    Alike (List.Forall₂ (MovesTo d)) (m.barcodeCommands symbology value bindings catalog)
      ({ m with position := p }.barcodeCommands symbology value bindings catalog) := by
  apply (Point.origin_moves h).liftArithmetic.bind
  intro o o' ho
  apply Alike.bind_self
  intro content
  apply Alike.bind_self
  intro height
  exact .ok (.cons ho (.cons (.other nofun) (.cons (.other nofun) .nil)))

theorem qrCommands_move {value : Option Text}
    (h : Alike (Shifts d) m.position.rounded p.rounded) :
    Alike (List.Forall₂ (MovesTo d)) (m.qrCommands value bindings catalog)
      ({ m with position := p }.qrCommands value bindings catalog) := by
  apply (Point.origin_moves h).liftArithmetic.bind
  intro o o' ho
  apply Alike.bind_self
  intro content
  apply Alike.bind_self
  intro magnification
  exact .ok (.cons ho (.cons (.other nofun) (.cons (.other nofun) .nil)))

/-- The mark of an image is placed by an origin of its own, which moves with that of the frame. -/
theorem rasterCommands_move (h : Alike (Shifts d) m.position.rounded p.rounded) :
    Alike (List.Forall₂ (MovesTo d)) m.rasterCommands { m with position := p }.rasterCommands := by
  apply h.bind
  rintro ⟨x, y⟩ ⟨x', y'⟩ ⟨hx, hy⟩
  have hmark : MovesTo d (.origin (x + 10) (y + 40)) (.origin (x' + 10) (y' + 40)) := by
    apply MovesTo.origin <;> dsimp only at hx hy <;> omega
  exact .ok (.cons (.origin hx hy) (.cons (.other nofun) (.cons hmark (.cons (.other nofun) .nil))))

theorem commands_move (h : Alike (Shifts d) m.position.rounded p.rounded) :
    Journaled.Alike (List.Forall₂ (MovesTo d)) (m.commands bindings catalog)
      ({ m with position := p }.commands bindings catalog) := by
  have hpayload : Media.payload { m with position := p } = m.payload := rfl
  unfold commands
  rw [hpayload]
  cases m.payload with
  | barcode format value =>
    dsimp only
    cases Symbology.ofName? (Payload.formatName format) with
    | none => exact ⟨rfl, .ok .nil⟩
    | some symbology => exact ⟨rfl, barcodeCommands_move h⟩
  | qr value => exact ⟨rfl, qrCommands_move h⟩
  | raster source => exact ⟨rfl, (rasterCommands_move h).mapError _⟩

end Media

/-- What a line is besides its position is the same way from its corner. -/
theorem Line.commands_move {l : Line} (h : l.IsWithin (2 ^ 50)) (hp : p.IsWithin (2 ^ 51))
    (hbefore : (Element.line l).originDot.IsPlaceable)
    (hafter : ((Element.line l).placed p).originDot.IsPlaceable)
    (hdot : p.dot = l.position.dot + d) :
    Alike (List.Forall₂ (MovesTo d)) l.commands { l with position := p }.commands := by
  have hcommands : ({ l with position := p } : Line).commands = (thickness l.strokeWidth).map
      (drawing (p.dot + l.start.dot) (p.dot + l.finish.dot)) :=
    commands_of_isWithin (l := { l with position := p }) hp h.start h.finish (by decide)
  rw [hcommands, h.commands_eq]
  -- Both are drawn from the same ends, so the corners lie as far from the positions.
  apply Alike.map_self
  intro t
  rw [drawing_add, startDot, finishDot, drawing_add]
  refine .cons (Dot.origin_moves hbefore hafter ?_ ?_)
    (.cons (.other (strokeCommand_ne_origin _ _ _)) .nil)
  · rw [hdot]
    simp only [Dot.add_x]
    omega
  · rw [hdot]
    simp only [Dot.add_y]
    omega

theorem Element.commands_move {e : Element} (he : e.IsWithin (2 ^ 50)) (hp : p.IsWithin (2 ^ 51))
    (hbefore : e.originDot.IsPlaceable) (hafter : (e.placed p).originDot.IsPlaceable)
    (hdot : p.dot = e.position.dot + d) :
    Journaled.Alike (List.Forall₂ (MovesTo d)) (e.commands bindings catalog scale)
      ((e.placed p).commands bindings catalog scale) := by
  have hrounded := Point.rounded_shifts (d := d) he.position hp
  cases e with
  | text t => exact ⟨rfl, TextField.commands_move (hrounded hbefore hafter hdot)⟩
  | rectangle r =>
    exact ⟨rfl, (Rectangle.commands_move (hrounded hbefore hafter hdot)).mapError _⟩
  | line l => exact ⟨rfl, (Line.commands_move he hp hbefore hafter hdot).mapError _⟩
  | circle c => exact ⟨rfl, (Circle.commands_move (hrounded hbefore hafter hdot)).mapError _⟩
  | media m => exact Media.commands_move (hrounded hbefore hafter hdot)

end Moves

/-- Moving an element by whole dots moves the origins of its commands by as many and changes
nothing else: neither its other commands nor its notes nor its fault, if it has one. -/
theorem Target.encode_moved {t : Target} {bindings : Entries} {e : Element} {d : Dot}
    (he : e.IsWithin (2 ^ 50)) (hx : |d.x| ≤ 2 ^ 50) (hy : |d.y| ≤ 2 ^ 50)
    (hbefore : e.originDot.IsPlaceable) (hafter : (e.moved d).originDot.IsPlaceable) :
    Journaled.Alike (List.Forall₂ (Command.MovesTo d)) (t.encode bindings e)
      (t.encode bindings (e.moved d)) := by
  obtain ⟨hwithin, hdot⟩ := he.position.moved_spec hx hy (by decide)
  have hcommands : Journaled.Alike (List.Forall₂ (Command.MovesTo d))
      (e.commands bindings t.catalog t.fontScale)
      ((e.moved d).commands bindings t.catalog t.fontScale) :=
    e.commands_move he hwithin hbefore hafter hdot
  unfold encode
  rw [Element.moved, Element.isGuide_placed, Element.kind_placed]
  cases e.isGuide t.guideColor with
  | true => exact ⟨rfl, .ok .nil⟩
  | false => exact hcommands

def plumbLine : Element := .line {
  position := ⟨.int (-30), .real (.ofRat 5)⟩
  start := ⟨70, 40⟩
  finish := ⟨.real (.ofRat 70), .int (-5)⟩ }

theorem plumbLine_moves : plumbLine.IsWithin (2 ^ 50) ∧ plumbLine.originDot = ⟨40, 0⟩ ∧
    (plumbLine.moved ⟨-40, 25⟩).originDot = ⟨0, 25⟩ ∧
    (({} : Target).encode [] plumbLine).outcome = .ok [.origin 40 0, .box 1 45 1 false] ∧
    Journaled.Alike (List.Forall₂ (Command.MovesTo ⟨-40, 25⟩)) (({} : Target).encode [] plumbLine)
      (({} : Target).encode [] (plumbLine.moved ⟨-40, 25⟩)) := by
  have hwithin : plumbLine.IsWithin (2 ^ 50) :=
    ⟨by decide +kernel, by decide +kernel, by decide +kernel⟩
  have hbefore : plumbLine.originDot = ⟨40, 0⟩ := by decide +kernel
  have hafter : (plumbLine.moved ⟨-40, 25⟩).originDot = ⟨0, 25⟩ := by decide +kernel
  refine ⟨hwithin, hbefore, hafter, by decide +kernel, ?_⟩
  apply Target.encode_moved hwithin (by decide) (by decide)
  · rw [hbefore]
    decide
  · rw [hafter]
    decide

end LabelPress
