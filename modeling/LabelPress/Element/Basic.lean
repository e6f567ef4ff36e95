import LabelPress.Geometry

/-!
# Elements of a label

A design is a page and the elements on it, in printing order: texts, rectangles, lines, circles and
media. A medium is a barcode, a QR code, or an image that only has its place marked.
-/

namespace LabelPress

/-- A line of text. A dynamic one shows the value bound to its field key instead. -/
structure TextField where
  position : Point
  text : Text := ""
  fontSize : Number := 20
  angle : Number := 0
  isDynamic : Bool := false
  fieldKey : Option Text := none
  stroke : Option Text := none
  deriving DecidableEq

structure Rectangle where
  position : Point
  width : Number
  height : Number
  fill : Option Text := none
  strokeWidth : Number := 1
  stroke : Option Text := none
  deriving DecidableEq

/-- A straight line; its ends are relative to its position. -/
structure Line where
  position : Point
  start : Point := {}
  finish : Point := ⟨100, 0⟩
  strokeWidth : Number := 1
  stroke : Option Text := none
  deriving DecidableEq

/-- A circle, or an ellipse if it has a second radius other than the first. -/
structure Circle where
  position : Point
  radius : Number
  strokeWidth : Number := 1
  radiusY : Option Number := none
  stroke : Option Text := none
  deriving DecidableEq

inductive Payload where
  | barcode (format : Text) (value : Option Text)
  | qr (value : Option Text)
  | raster (source : Option Text)
  deriving DecidableEq

def Payload.defaultFormat : Text := "CODE128"

def Payload.formatName (name : Option Text) : Text :=
  match name with
  | some s => if s.isEmpty then Payload.defaultFormat else s
  | none => Payload.defaultFormat

structure Media where
  position : Point
  payload : Payload
  width : Number := 100
  height : Number := 100
  angle : Number := 0
  isDynamic : Bool := false
  fieldKey : Option Text := none
  stroke : Option Text := none
  deriving DecidableEq

inductive Element where
  | text (t : TextField)
  | rectangle (r : Rectangle)
  | line (l : Line)
  | circle (c : Circle)
  | media (m : Media)
  deriving DecidableEq

namespace Rectangle

def clearFills : List Text := ["", "transparent", "none"]

def isFilled (r : Rectangle) : Bool :=
  match r.fill with
  | none => false
  | some fill => !clearFills.contains (Text.lower (Text.strip fill))

end Rectangle

namespace Circle

def isEllipse (c : Circle) : Bool :=
  match c.radiusY with
  | none => false
  | some r => !r.same c.radius

end Circle

namespace Element

def position : Element → Point
  | text t => t.position
  | rectangle r => r.position
  | line l => l.position
  | circle c => c.position
  | media m => m.position

def stroke : Element → Option Text
  | text t => t.stroke
  | rectangle r => r.stroke
  | line l => l.stroke
  | circle c => c.stroke
  | media m => m.stroke

def agrees (eq : Number → Number → Bool) : Element → Element → Bool
  | text a, text b =>
    a.position.agrees eq b.position && a.text == b.text && eq a.fontSize b.fontSize &&
      eq a.angle b.angle && a.isDynamic == b.isDynamic && a.fieldKey == b.fieldKey &&
      a.stroke == b.stroke
  | rectangle a, rectangle b =>
    a.position.agrees eq b.position && eq a.width b.width && eq a.height b.height &&
      a.fill == b.fill && eq a.strokeWidth b.strokeWidth && a.stroke == b.stroke
  | line a, line b =>
    a.position.agrees eq b.position && a.start.agrees eq b.start && a.finish.agrees eq b.finish &&
      eq a.strokeWidth b.strokeWidth && a.stroke == b.stroke
  | circle a, circle b =>
    a.position.agrees eq b.position && eq a.radius b.radius && eq a.strokeWidth b.strokeWidth &&
      radiusAgrees eq a.radiusY b.radiusY && a.stroke == b.stroke
  | media a, media b =>
    a.position.agrees eq b.position && a.payload == b.payload && eq a.width b.width &&
      eq a.height b.height && eq a.angle b.angle && a.isDynamic == b.isDynamic &&
      a.fieldKey == b.fieldKey && a.stroke == b.stroke
  | _, _ => false
where
  /-- Whether two second radii agree. -/
  radiusAgrees (eq : Number → Number → Bool) : Option Number → Option Number → Bool
    | none, none => true
    | some r, some s => eq r s
    | _, _ => false

end Element

structure Design where
  page : Page
  elements : List Element
  deriving DecidableEq

namespace Design

def elementsAgree (eq : Number → Number → Bool) : List Element → List Element → Bool
  | [], [] => true
  | a :: as, b :: bs => a.agrees eq b && elementsAgree eq as bs
  | _, _ => false

def agrees (eq : Number → Number → Bool) (d e : Design) : Bool :=
  d.page == e.page && elementsAgree eq d.elements e.elements

end Design
end LabelPress
