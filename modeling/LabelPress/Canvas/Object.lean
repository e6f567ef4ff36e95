import LabelPress.Element.Basic
import LabelPress.Numeral.Real

/-!
# Objects of a canvas

The designer's canvas is a list of drawn objects, mappings with a type and fields of their own.
Where a number is expected, every other value gives way to the default. Sizes are multiplied by the
scale of their object.
-/

namespace LabelPress.Canvas

def number (name : Text) (default : Number) (entries : Entries) : Number :=
  match entries.get? name with
  | some (.number n) => n
  | _ => default

def text? (name : Text) (entries : Entries) : Except ArithmeticFault (Option Text) :=
  match entries.getOrNull name with
  | .null => .ok none
  | v => v.printed.map some

def flag (name : Text) (default : Bool) (entries : Entries) : Bool :=
  match entries.get? name with
  | some v => v.isTrue
  | none => default

inductive ObjectType where
  | text
  | rect
  | line
  | circle
  | ellipse
  | image
  deriving DecidableEq

namespace ObjectType

def names : List (Text × ObjectType) := [
  ("text", text), ("itext", text), ("textbox", text), ("rect", rect), ("line", line),
  ("circle", circle), ("ellipse", ellipse), ("image", image)]

def ofName? (name : Text) : Option ObjectType :=
  let key := Text.lower (name.filter fun c => c != .char '-' && c != .char '_')
  (names.find? fun entry => entry.1 == key).map (·.2)

/-- The type that a value names; what counts as false names none. -/
def ofValue? (v : Value) : Except ArithmeticFault (Option ObjectType) := do
  if v.isTrue then return ofName? (← v.printed) else return none

end ObjectType

def coordinate (v : Value) : Except Fault Number := do
  match v with
  | .bool b => return .real (.ofInt (if b then 1 else 0))
  | .number n => return .real (← n.toReal)
  | .text s => match Binary64.ofNumeral? s with
    | some x => return .real x
    | none => throw (.numeral (Text.quoted s))
  | .scalar (.bytes b) =>
    let s := String.ofList (b.map fun byte => Char.ofNat byte.toNat)
    match if b.all (· < 0x80) then Binary64.ofNumeral? s else none with
    | some x => return .real x
    | none => throw (.numeral (← v.shown))
  | v => throw (.coordinate v.qualifiedTypeName)

/-- The ends of a line before they are scaled: a list of four coordinates, or four fields. -/
def lineEnds (entries : Entries) : Except Fault (Point × Point) := do
  match (entries.getOrNull "points").head with
  | .list [a, b, c, d] =>
    let x₁ ← coordinate a
    let y₁ ← coordinate b
    let x₂ ← coordinate c
    let y₂ ← coordinate d
    return (⟨x₁, y₁⟩, ⟨x₂, y₂⟩)
  | _ =>
    if ["x1", "y1", "x2", "y2"].all fun name => entries.has name then
      return (⟨number "x1" 0 entries, number "y1" 0 entries⟩,
        ⟨number "x2" 0 entries, number "y2" 0 entries⟩)
    return (⟨0, 0⟩, ⟨100, 0⟩)

structure Frame where
  position : Point
  scaleX : Number
  scaleY : Number
  stroke : Option Text
  strokeWidth : Number

def Frame.ofEntries (entries : Entries) : Except ArithmeticFault Frame := do
  let stroke ← text? "stroke" entries
  return {
    position := ⟨number "left" 0 entries, number "top" 0 entries⟩
    scaleX := number "scaleX" 1 entries
    scaleY := number "scaleY" 1 entries
    stroke
    strokeWidth := number "strokeWidth" 1 entries }

namespace Frame

/-- The text of an object; `data` holds its binding. -/
def text (f : Frame) (entries data : Entries) : Except ArithmeticFault TextField := do
  let text ← text? "text" entries
  let fontSize ← (number "fontSize" 20 entries).mul f.scaleY
  return {
    position := f.position
    text := text.getD ""
    fontSize
    angle := number "angle" 0 entries
    isDynamic := flag "isDynamic" false data
    fieldKey := ← text? "field" data
    stroke := f.stroke }

def rectangle (f : Frame) (entries : Entries) : Except ArithmeticFault Rectangle := do
  let width ← (number "width" 0 entries).mul f.scaleX
  let height ← (number "height" 0 entries).mul f.scaleY
  return {
    position := f.position
    width
    height
    fill := ← text? "fill" entries
    strokeWidth := f.strokeWidth
    stroke := f.stroke }

def scaled (f : Frame) (p : Point) : Except ArithmeticFault Point := do
  let x ← p.x.mul f.scaleX
  let y ← p.y.mul f.scaleY
  return ⟨x, y⟩

def line (f : Frame) (entries : Entries) : Except Fault Line := do
  let (start, finish) ← lineEnds entries
  let start ← f.scaled start
  let finish ← f.scaled finish
  return { position := f.position, start, finish, strokeWidth := f.strokeWidth, stroke := f.stroke }

def circle (f : Frame) (entries : Entries) : Except ArithmeticFault Circle := do
  let radius ← (number "radius" 0 entries).mul f.scaleX
  return { position := f.position, radius, strokeWidth := f.strokeWidth, stroke := f.stroke }

def ellipse (f : Frame) (entries : Entries) : Except ArithmeticFault Circle := do
  let radius ← (number "rx" 0 entries).mul f.scaleX
  let radiusY ← (number "ry" 0 entries).mul f.scaleY
  return {
    position := f.position, radius, radiusY := some radiusY
    strokeWidth := f.strokeWidth, stroke := f.stroke }

/-- What an image shows: the symbol that its data announces, or its source. -/
def payload (entries data : Entries) : Except ArithmeticFault Payload := do
  if flag "isBarcode" false data then
    let format ← text? "format" data
    return .barcode (Payload.formatName format) (← text? "value" data)
  if flag "isQRCode" false data then return .qr (← text? "value" data)
  return .raster (← text? "src" entries)

/-- The medium of an object. Its value is looked up in the bindings unless its data forbid it. -/
def media (f : Frame) (entries data : Entries) : Except ArithmeticFault Media := do
  let payload ← payload entries data
  let width ← (number "width" 100 entries).mul f.scaleX
  let height ← (number "height" 100 entries).mul f.scaleY
  return {
    position := f.position
    payload
    width
    height
    angle := number "angle" 0 entries
    isDynamic := flag "isDynamic" true data
    fieldKey := ← text? "field" data
    stroke := f.stroke }

end Frame

/-- The element of an object; none if its type is not printed. -/
def element? (entries : Entries) : Except Fault (Option Element) := do
  let type ← ObjectType.ofValue? (entries.getOrNull "type")
  let data := (entries.getOrNull "data").entries
  let f ← Frame.ofEntries entries
  match type with
  | none => return none
  | some .text => return some (.text (← f.text entries data))
  | some .rect => return some (.rectangle (← f.rectangle entries))
  | some .line => return some (.line (← f.line entries))
  | some .circle => return some (.circle (← f.circle entries))
  | some .ellipse => return some (.circle (← f.ellipse entries))
  | some .image => return some (.media (← f.media entries data))

end LabelPress.Canvas
