import LabelPress.Command.Basic
import LabelPress.Element.Kind
import LabelPress.Field.Binding
import LabelPress.Journal

/-!
# Elements as commands

Every element becomes an origin and the commands that print there. Places and sizes are rounded to
whole dots and kept from falling below the least that a command takes. Numbers that are zero stand
for the default of their field where that field has one.
-/

namespace LabelPress

def thickness (strokeWidth : Number) : Except ArithmeticFault Nat := do
  return max 1 (← (strokeWidth.orElse 1).roundHalfUp).toNat

def Point.origin (p : Point) : Except ArithmeticFault Command := do
  let (x, y) ← p.rounded
  return .origin x y

namespace TextField

def defaultSize : Number := 20

def scaledSize (size scale : Number) : Except ArithmeticFault Int := do
  (← (size.orElse defaultSize).mul scale).roundHalfUp

def content (t : TextField) (bindings : Entries) (catalog : Option Catalog) :
    Except Fault Text :=
  match t.isDynamic, t.fieldKey with
  | true, some key => if key.isEmpty then .ok t.text else resolveField key bindings catalog
  | _, _ => .ok t.text

def commands (t : TextField) (bindings : Entries) (catalog : Option Catalog) (scale : Number) :
    Except Fault (List Command) := do
  let origin ← t.position.origin
  let content ← t.content bindings catalog
  let size ← scaledSize t.fontSize scale
  return [origin, .font t.angle.orientation size, .data content]

end TextField

def Rectangle.commands (r : Rectangle) : Except ArithmeticFault (List Command) := do
  let origin ← r.position.origin
  let width ← r.width.roundDots
  let height ← r.height.roundDots
  return [origin, .box width height (← thickness r.strokeWidth) r.isFilled]

namespace Line

def origin (l : Line) (x y : Int) : Except ArithmeticFault Command := do
  let x ← (← l.position.x.add (.int x)).roundDots
  let y ← (← l.position.y.add (.int y)).roundDots
  return .origin x y

/-- The commands that print a line. A horizontal or vertical one is a box as thick as the line;
every other one is drawn from its start. -/
def commands (l : Line) : Except ArithmeticFault (List Command) := do
  let x₁ ← l.start.x.roundHalfUp
  let y₁ ← l.start.y.roundHalfUp
  let x₂ ← l.finish.x.roundHalfUp
  let y₂ ← l.finish.y.roundHalfUp
  let t ← thickness l.strokeWidth
  if y₁ = y₂ then return [← l.origin (min x₁ x₂) y₁, .box (x₂ - x₁).natAbs t t false]
  if x₁ = x₂ then return [← l.origin x₁ (min y₁ y₂), .box t (y₂ - y₁).natAbs t false]
  return [← l.origin x₁ y₁, .diagonal (x₂ - x₁) (y₂ - y₁) t]

end Line

def Circle.commands (c : Circle) : Except ArithmeticFault (List Command) := do
  let origin ← c.position.origin
  let t ← thickness c.strokeWidth
  let diameter := (← c.radius.roundDots) * 2
  if c.isEllipse then
    let height := (← (c.radiusY.getD c.radius).roundDots) * 2
    return [origin, .ellipse diameter height t]
  return [origin, .circle diameter t]

namespace Media

def defaultBarcodeValue : Text := "123456789"

def defaultQrValue : Text := "https://example.com"

def defaultBarHeight : Nat := 50

def barHeight (m : Media) : Except ArithmeticFault Nat := do
  let height ← m.height.roundDots
  return if height = 0 then defaultBarHeight else height

def pixelsPerModule : Number := 25

def magnification (m : Media) : Except ArithmeticFault Nat := do
  let size ← (Number.real (← (m.width.orElse 100).div pixelsPerModule)).roundHalfUp
  return (min 10 (max 1 size)).toNat

def key (m : Media) (value : Option Text) : Option Text :=
  let given (s : Option Text) := s.filter fun t => !t.isEmpty
  if m.isDynamic then (given m.fieldKey).or (given value) else none

def symbolText (m : Media) (value : Option Text) (default : Text) (bindings : Entries)
    (catalog : Option Catalog) : Except Fault Text := do
  let bound ← match m.key value with
    | some key => fieldText? key bindings catalog
    | none => pure none
  return (bound.or (value.filter fun s => !s.isEmpty)).getD default

def barcodeCommands (m : Media) (symbology : Symbology) (value : Option Text)
    (bindings : Entries) (catalog : Option Catalog) : Except Fault (List Command) := do
  let origin ← m.position.origin
  let content ← m.symbolText value defaultBarcodeValue bindings catalog
  return [origin, .barcode symbology m.angle.orientation (← m.barHeight), .data content]

/-- What stands before the data of a QR code: medium error correction, automatic input. -/
def qrMode : Text := "MA,"

def qrCommands (m : Media) (value : Option Text) (bindings : Entries)
    (catalog : Option Catalog) : Except Fault (List Command) := do
  let origin ← m.position.origin
  let content ← m.symbolText value defaultQrValue bindings catalog
  return [origin, .qr (← m.magnification), .data (qrMode ++ content)]

def rasterCommands (m : Media) : Except ArithmeticFault (List Command) := do
  let (x, y) ← m.position.rounded
  return [.origin x y, .box 100 100 2 false, .origin (x + 10) (y + 40), .imageMarker]

/-- The commands that print a medium. A barcode of a format that cannot be printed is noted. -/
def commands (m : Media) (bindings : Entries) (catalog : Option Catalog) :
    Journaled (List Command) := do
  match m.payload with
  | .barcode format value => match Symbology.ofName? (Payload.formatName format) with
    | none =>
      Journaled.note (.droppedBarcode (Text.quoted format))
      return []
    | some symbology => m.barcodeCommands symbology value bindings catalog
  | .qr value => m.qrCommands value bindings catalog
  | .raster _ => Journaled.ofArithmetic m.rasterCommands

end Media
end LabelPress
