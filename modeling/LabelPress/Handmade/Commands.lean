import LabelPress.Handmade.Binding
import LabelPress.Handmade.Item
import LabelPress.Label.Target

/-!
# Items as commands

An item whose fields are of their types is encoded as the element that it is. For every other item
the fields are taken in the same order, and the first one that will not do is the fault.
-/

namespace LabelPress.Handmade

structure Setting where
  bindings : Value
  catalog : Option Catalog
  guideColor : Value
  fontScale : Value

namespace Setting

def typed? (s : Setting) : Option (Target × Entries) := do
  let catalog ← match s.catalog with
    | none => pure none
    | some c => (← Catalog.typed? c)
  let guideColor ← s.guideColor.text?
  let fontScale ← s.fontScale.number?
  let bindings ← match s.bindings with
    | .mapping entries => some entries
    | v => if v.isTrue then none else some []
  return ({ catalog, guideColor, fontScale }, bindings)

end Setting

def dataOf (v : Value) : Except Fault Command := do return .data (← v.searched)

namespace Item

def isGuide (guideColor : Value) (i : Item) : Except Fault Bool := do
  match i.stroke with
  | .null => return false
  | stroke =>
    let stroke ← stroke.textFor "strip"
    return Text.lower (Text.strip stroke) == Text.lower (← guideColor.textFor "lower")

def rounded (i : Item) : Except Fault (Nat × Nat) := do
  let x ← (← i.coordinate "position" "x").roundDots
  let y ← (← i.coordinate "position" "y").roundDots
  return (x, y)

def origin (i : Item) : Except Fault Command := do
  let (x, y) ← i.rounded
  return .origin x y

def thickness (i : Item) : Except Fault Nat := do
  return max 1 (← ((← i.field "stroke_width").orElse (.number 1)).roundHalfUp).toNat

/-- The orientation of an item; an angle that counts as false is none. -/
def orientation (i : Item) : Except Fault Orientation := do
  ((← i.field "angle").orElse (.number 0)).orientation

def content (i : Item) (bindings : Value) (catalog : Option Catalog) : Except Fault Value := do
  if (← i.field "is_dynamic").isTrue then
    let key ← i.field "field_key"
    if key.isTrue then return ← resolveField key bindings catalog
  i.field "text"

def scaledSize (size scale : Value) : Except Fault Int := do
  (← (size.orElse (.number TextField.defaultSize)).mul scale).roundHalfUp

def textCommands (s : Setting) (i : Item) : Except Fault (List Command) := do
  let origin ← i.origin
  let content ← i.content s.bindings s.catalog
  let size ← scaledSize (← i.field "font_size") s.fontScale
  let orientation ← i.orientation
  return [origin, .font orientation size, ← dataOf content]

def isFilled (i : Item) : Except Fault Bool := do
  match ← i.field "fill" with
  | .null => return false
  | fill => return !Rectangle.clearFills.contains (Text.lower (Text.strip (← fill.textFor "strip")))

def rectangleCommands (i : Item) : Except Fault (List Command) := do
  let origin ← i.origin
  let width ← (← i.field "width").roundDots
  let height ← (← i.field "height").roundDots
  let thickness ← i.thickness
  return [origin, .box width height thickness (← i.isFilled)]

/-- The command that places a line whose rounded ends start at `x` and `y` from its position. -/
def lineOrigin (i : Item) (x y : Int) : Except Fault Command := do
  let x ← (← (← i.coordinate "position" "x").add (.number (.int x))).roundDots
  let y ← (← (← i.coordinate "position" "y").add (.number (.int y))).roundDots
  return .origin x y

def lineCommands (i : Item) : Except Fault (List Command) := do
  let x₁ ← (← i.coordinate "start" "x").roundHalfUp
  let y₁ ← (← i.coordinate "start" "y").roundHalfUp
  let x₂ ← (← i.coordinate "end" "x").roundHalfUp
  let y₂ ← (← i.coordinate "end" "y").roundHalfUp
  let t ← i.thickness
  if y₁ = y₂ then return [← i.lineOrigin (min x₁ x₂) y₁, .box (x₂ - x₁).natAbs t t false]
  if x₁ = x₂ then return [← i.lineOrigin x₁ (min y₁ y₂), .box t (y₂ - y₁).natAbs t false]
  return [← i.lineOrigin x₁ y₁, .diagonal (x₂ - x₁) (y₂ - y₁) t]

def isEllipse (i : Item) : Except Fault Bool := do
  match ← i.field "radius_y" with
  | .null => return false
  | r => return !r.agrees Number.same (← i.field "radius")

def circleCommands (i : Item) : Except Fault (List Command) := do
  let origin ← i.origin
  let t ← i.thickness
  let diameter := (← (← i.field "radius").roundDots) * 2
  if ← i.isEllipse then
    let height := (← (← i.field "radius_y").roundDots) * 2
    return [origin, .ellipse diameter height t]
  return [origin, .circle diameter t]

def symbolValue (i : Item) (value default bindings : Value) (catalog : Option Catalog) :
    Except Fault Value := do
  if (← i.field "is_dynamic").isTrue then
    let key := (← i.field "field_key").orElse value
    if key.isTrue then
      let spec ← specOf? catalog key
      let bound ← lookUp bindings key
      if !isMissing bound then return .text (← renderBound spec bound)
      if let some v := fallback? spec then return v
  return value.orElse default

def barHeight (i : Item) : Except Fault Nat := do
  let height ← (← i.field "height").roundDots
  return if height = 0 then Media.defaultBarHeight else height

def magnification (i : Item) : Except Fault Nat := do
  let width := (← i.field "width").orElse (.number 100)
  let size ← (← width.div (.number Media.pixelsPerModule)).roundHalfUp
  return (min 10 (max 1 size)).toNat

/-- The commands that print a barcode. A format that cannot be printed is noted. -/
def barcodeCommands (s : Setting) (i : Item) (payload : Entries) : Journaled (List Command) := do
  let format := payload.getOrNull "format"
  let name ← (format.orElse (.text Payload.defaultFormat)).textFor "strip"
  match Symbology.ofName? name with
  | none =>
    Journaled.note (.droppedBarcode (← (format.shown : Except ArithmeticFault Text)))
    return []
  | some symbology =>
    let origin ← i.origin
    let content ← i.symbolValue (payload.getOrNull "value") (.text Media.defaultBarcodeValue)
      s.bindings s.catalog
    let orientation ← i.orientation
    let height ← i.barHeight
    return [origin, .barcode symbology orientation height, ← dataOf content]

def qrCommands (s : Setting) (i : Item) (payload : Entries) : Except Fault (List Command) := do
  let origin ← i.origin
  let content ← i.symbolValue (payload.getOrNull "value") (.text Media.defaultQrValue) s.bindings
    s.catalog
  let magnification ← i.magnification
  let data ← (Value.text Media.qrMode).add content
  return [origin, .qr magnification, ← dataOf data]

def rasterCommands (i : Item) : Except Fault (List Command) := do
  let (x, y) ← i.rounded
  return [.origin x y, .box 100 100 2 false, .origin (x + 10) (y + 40), .imageMarker]

def mediaCommands (s : Setting) (i : Item) : Journaled (List Command) := do
  let payload ← i.field "payload"
  match payload, PayloadKind.ofValue? (payload.entries.getOrNull "t") with
  | .mapping fields, some .barcode => i.barcodeCommands s fields
  | .mapping fields, some .qr => (i.qrCommands s fields : Except Fault _)
  | .mapping _, some .raster => (i.rasterCommands : Except Fault _)
  | payload, _ => Journaled.fail (.payload payload.typeName)

def looseCommands (s : Setting) (i : Item) : Journaled (List Command) := do
  if ← (i.isGuide s.guideColor : Except Fault Bool) then
    Journaled.note (.skippedGuide i.kindName)
    return []
  match i with
  | .element .text _ => (i.textCommands s : Except Fault _)
  | .element .rectangle _ => (i.rectangleCommands : Except Fault _)
  | .element .line _ => (i.lineCommands : Except Fault _)
  | .element .circle _ => (i.circleCommands : Except Fault _)
  | .element .media _ => i.mediaCommands s
  | i => Journaled.fail (.element i.kindName)

def encode (s : Setting) (i : Item) : Journaled (List Command) :=
  match i.element?, s.typed? with
  | some e, some (target, bindings) => target.encode bindings e
  | _, _ => i.looseCommands s

end Item
end LabelPress.Handmade
