import LabelPress.Element.Basic
import LabelPress.Value.Basic

/-!
# Kinds of elements and payloads
-/

namespace LabelPress

inductive ElementKind where
  | text
  | rectangle
  | line
  | circle
  | media
  deriving DecidableEq

namespace ElementKind

def word : ElementKind → Text
  | text => "text"
  | rectangle => "rectangle"
  | line => "line"
  | circle => "circle"
  | media => "media"

def typeName : ElementKind → Text
  | text => "TextElement"
  | rectangle => "RectangleElement"
  | line => "LineElement"
  | circle => "CircleElement"
  | media => "MediaElement"

def all : List ElementKind := [text, rectangle, line, circle, media]

def ofWord? (w : Text) : Option ElementKind := all.find? fun k => k.word == w

def ofValue? : Value → Option ElementKind
  | .text w => ofWord? w
  | _ => none

end ElementKind

inductive PayloadKind where
  | barcode
  | qr
  | raster
  deriving DecidableEq

namespace PayloadKind

def word : PayloadKind → Text
  | barcode => "barcode"
  | qr => "qrcode"
  | raster => "raster"

def all : List PayloadKind := [barcode, qr, raster]

def ofWord? (w : Text) : Option PayloadKind := all.find? fun k => k.word == w

def ofValue? : Value → Option PayloadKind
  | .text w => ofWord? w
  | _ => none

end PayloadKind

def Element.kind : Element → ElementKind
  | text _ => .text
  | rectangle _ => .rectangle
  | line _ => .line
  | circle _ => .circle
  | media _ => .media

end LabelPress
