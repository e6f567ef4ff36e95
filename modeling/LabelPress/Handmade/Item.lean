import LabelPress.Element.Kind
import LabelPress.Handmade.Operand

/-!
# Items

A label that is put together by hand has items: elements whose fields may have values of any types,
and things that are no elements. An item all of whose fields are of their types is an element.
-/

namespace LabelPress.Handmade

inductive Item where
  /-- An element of a kind with its fields by their names. A position is a list of two values, and a
  payload a mapping with its type, or anything else. -/
  | element (kind : ElementKind) (fields : Entries)
  /-- A thing of another kind that has a position and a stroke. -/
  | drawn (typeName : Text) (stroke : Value)
  /-- A value of no kind of element. -/
  | other (v : Value)

def pointValue (p : Point) : Value := .list [.number p.x, .number p.y]

def payloadValue : Payload → Value
  | .barcode format value => .ofFields
    [("t", .text PayloadKind.barcode.word), ("format", .text format), ("value", .ofText? value)]
  | .qr value => .ofFields [("t", .text PayloadKind.qr.word), ("value", .ofText? value)]
  | .raster source =>
    .ofFields [("t", .text PayloadKind.raster.word), ("source", .ofText? source)]

def point? : Value → Option Point
  | .list [.number x, .number y] => some ⟨x, y⟩
  | _ => none

def payload? (v : Value) : Option Payload := do
  let get (name : Text) := v.entries.getOrNull name
  match ← PayloadKind.ofValue? (get "t") with
  | .barcode => return .barcode (← (get "format").text?) (← (get "value").unlessNull? Value.text?)
  | .qr => return .qr (← (get "value").unlessNull? Value.text?)
  | .raster => return .raster (← (get "source").unlessNull? Value.text?)

namespace Item

def fieldsOf : Element → List (Text × Value)
  | .text t => [("position", pointValue t.position), ("text", .text t.text),
    ("font_size", .number t.fontSize), ("angle", .number t.angle),
    ("is_dynamic", .bool t.isDynamic), ("field_key", .ofText? t.fieldKey),
    ("stroke", .ofText? t.stroke)]
  | .rectangle r => [("position", pointValue r.position), ("width", .number r.width),
    ("height", .number r.height), ("fill", .ofText? r.fill),
    ("stroke_width", .number r.strokeWidth), ("stroke", .ofText? r.stroke)]
  | .line l => [("position", pointValue l.position), ("start", pointValue l.start),
    ("end", pointValue l.finish), ("stroke_width", .number l.strokeWidth),
    ("stroke", .ofText? l.stroke)]
  | .circle c => [("position", pointValue c.position), ("radius", .number c.radius),
    ("stroke_width", .number c.strokeWidth),
    ("radius_y", (c.radiusY.map Value.number).getD .null), ("stroke", .ofText? c.stroke)]
  | .media m => [("position", pointValue m.position), ("payload", payloadValue m.payload),
    ("width", .number m.width), ("height", .number m.height), ("angle", .number m.angle),
    ("is_dynamic", .bool m.isDynamic), ("field_key", .ofText? m.fieldKey),
    ("stroke", .ofText? m.stroke)]

def ofElement (e : Element) : Item := .element e.kind (Value.ofFields (fieldsOf e)).entries

def defaults : ElementKind → List (Text × Value)
  | .text => fieldsOf (.text { position := {} })
  | .rectangle => fieldsOf (.rectangle { position := {}, width := 0, height := 0 })
  | .line => fieldsOf (.line { position := {} })
  | .circle => fieldsOf (.circle { position := {}, radius := 0 })
  | .media => fieldsOf (.media { position := {}, payload := .raster none })

def required : ElementKind → List Text
  | .text | .line => ["position"]
  | .rectangle => ["position", "width", "height"]
  | .circle => ["position", "radius"]
  | .media => ["position", "payload"]

/-- The element of a kind with these fields, and defaults for the others. -/
def ofFields (kind : ElementKind) (fields : Entries) : Item :=
  .element kind ((defaults kind).map fun (name, default) =>
    (.text name, (fields.get? name).getD
      (if name != "position" && (required kind).contains name then .null else default)))

def elementOf? (kind : ElementKind) (fields : Entries) : Option Element := do
  let get (name : Text) := fields.getOrNull name
  let position ← point? (get "position")
  let stroke ← (get "stroke").unlessNull? Value.text?
  match kind with
  | .text => return .text {
      position, stroke
      text := ← (get "text").text?
      fontSize := ← (get "font_size").number?
      angle := ← (get "angle").number?
      isDynamic := ← (get "is_dynamic").bool?
      fieldKey := ← (get "field_key").unlessNull? Value.text? }
  | .rectangle => return .rectangle {
      position, stroke
      width := ← (get "width").number?
      height := ← (get "height").number?
      fill := ← (get "fill").unlessNull? Value.text?
      strokeWidth := ← (get "stroke_width").number? }
  | .line => return .line {
      position, stroke
      start := ← point? (get "start")
      finish := ← point? (get "end")
      strokeWidth := ← (get "stroke_width").number? }
  | .circle => return .circle {
      position, stroke
      radius := ← (get "radius").number?
      strokeWidth := ← (get "stroke_width").number?
      radiusY := ← (get "radius_y").unlessNull? Value.number? }
  | .media => return .media {
      position, stroke
      payload := ← payload? (get "payload")
      width := ← (get "width").number?
      height := ← (get "height").number?
      angle := ← (get "angle").number?
      isDynamic := ← (get "is_dynamic").bool?
      fieldKey := ← (get "field_key").unlessNull? Value.text? }

def element? : Item → Option Element
  | .element kind fields => elementOf? kind fields
  | _ => none

def kindName : Item → Text
  | .element kind _ => kind.typeName
  | .drawn typeName _ => typeName
  | .other v => v.typeName

def stroke : Item → Value
  | .element _ fields => fields.getOrNull "stroke"
  | .drawn _ stroke => stroke
  | .other _ => .null

def field (i : Item) (name : Text) : Except Fault Value :=
  match i with
  | .element kind fields => match fields.get? name with
    | some v => .ok v
    | none => .error (.noAttribute kind.typeName name)
  | .drawn typeName stroke =>
    if name = "stroke" then .ok stroke else .error (.noAttribute typeName name)
  | .other v => .error (.noAttribute v.qualifiedTypeName name)

def coordinate (i : Item) (name : Text) (axis : Text) : Except Fault Value := do
  match ← i.field name with
  | .list [x, y] => return if axis = "x" then x else y
  | v => throw (.noAttribute v.qualifiedTypeName axis)

def agrees (eq : Number → Number → Bool) : Item → Item → Bool
  | .element k fs, .element l gs => k == l && (Value.mapping fs).agrees eq (.mapping gs)
  | _, _ => false

end Item
end LabelPress.Handmade
