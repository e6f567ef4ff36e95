import LabelPress.Document.Read

/-!
# Documents from designs

A design is written with every field of every element, so that nothing depends on defaults when it
is read back. A stroke colour is written only where there is one.
-/

namespace LabelPress

def Page.toValue (p : Page) : Value := .ofFields [
  ("dpi", .number (.int p.dpi)),
  ("width_dots", .number (.int p.width)),
  ("height_dots", .number (.int p.height))]

def Payload.toValue : Payload → Value
  | barcode format value => .ofFields
    [("type", .text "barcode"), ("format", .text format), ("value", .ofText? value)]
  | qr value => .ofFields [("type", .text "qrcode"), ("value", .ofText? value)]
  | raster source => .ofFields [("type", .text "raster"), ("source", .ofText? source)]

def Element.commonFields (kind : ElementKind) (position : Point) (stroke : Option Text) :
    List (Text × Value) :=
  ("kind", .text kind.word) :: ("x", .number position.x) :: ("y", .number position.y) ::
    match stroke with
    | some s => [("stroke", .text s)]
    | none => []

def Element.ownFields (e : Element) : List (Text × Value) :=
  match e with
  | text t => [
    ("text", .text t.text),
    ("font_size", .number t.fontSize),
    ("angle", .number t.angle),
    ("is_dynamic", .bool t.isDynamic),
    ("field_key", .ofText? t.fieldKey)]
  | rectangle r => [
    ("width", .number r.width),
    ("height", .number r.height),
    ("fill", .ofText? r.fill),
    ("stroke_width", .number r.strokeWidth)]
  | line l => [
    ("points", .list [.number l.start.x, .number l.start.y, .number l.finish.x,
      .number l.finish.y]),
    ("stroke_width", .number l.strokeWidth)]
  | circle c => [
    ("radius", .number c.radius),
    ("radius_y", (c.radiusY.map Value.number).getD .null),
    ("stroke_width", .number c.strokeWidth)]
  | media m => [
    ("width", .number m.width),
    ("height", .number m.height),
    ("angle", .number m.angle),
    ("is_dynamic", .bool m.isDynamic),
    ("field_key", .ofText? m.fieldKey),
    ("payload", m.payload.toValue)]

def Element.toValue (e : Element) : Value :=
  .ofFields (Element.commonFields e.kind e.position e.stroke ++ e.ownFields)

def Design.toValue (d : Design) : Value := .ofFields [
  ("page", d.page.toValue),
  ("elements", .list (d.elements.map Element.toValue))]

end LabelPress
