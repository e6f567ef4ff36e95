import LabelPress.Address.Basic
import LabelPress.Geometry
import LabelPress.Journal
import LabelPress.Preview.Status

/-!
# Previews

A rendering service turns a label into an image. The request names the density of the printer in
dots per millimetre and the size of the label in inches; the service answers with the image, with a
refusal, or not at all.
-/

namespace LabelPress

/-- The density of a resolution in dots per millimetre, an exact half going to the even number. -/
def dotsPerMillimeter (dpi : Number) : Except ArithmeticFault Int := do
  (← dpi.div (.real millimetersPerInch)).toInteger roundHalfEven

def inchesText (length : Number) : Except ArithmeticFault Text := do
  return Text.dropTrailing '.' (Text.dropTrailing '0' (← length.toReal).hundredthsText)

namespace Preview

def defaultUrl : Text := "https://api.labelary.com/v1"

def addressOf (base size density index : Text) : Text :=
  Text.dropTrailing '/' base ++ "/printers/" ++ density ++ "dpmm/labels/" ++ size ++ "/" ++
    index ++ "/"

def address (base : Text) (width height dpi : Number) (index : Nat) :
    Except ArithmeticFault Text := do
  let size := (← inchesText width) ++ "x" ++ (← inchesText height)
  return addressOf base size (← integerText (← dotsPerMillimeter dpi)) (toString index)

structure Request where
  address : Address
  /-- The type of image that is wanted. -/
  accept : Text := "image/png"
  body : List UInt8
  deriving DecidableEq

def Request.method : Text := "POST"

def Request.contentType : Text := "application/x-www-form-urlencoded"

structure Answer where
  status : Nat
  content : List UInt8
  /-- What the client reads in the content, by the encoding that the answer names. Where it names
  none that is UTF-8. -/
  text : Text := Text.Utf8.decodeReplacing content
  deriving DecidableEq

/-- What comes of a request. The client may also fail for a reason that is not one of transport. -/
inductive Reply where
  | answered (answer : Answer)
  | unanswered (reason : Text)
  | failed (fault : Fault)
  deriving DecidableEq

def detailLimit : Nat := 200

def detailOf (text : Text) : Text :=
  (Text.strip text).take detailLimit

/-- The image that an answer holds, if its status is one of success. -/
def Answer.image (a : Answer) : Except PreviewFault (List UInt8) :=
  if 200 ≤ a.status ∧ a.status < 300 then .ok a.content
  else .error (.refused a.status (detailOf a.text))

/-- The image that a request gets. An answer from an address that does not tell where it leads is
not taken. -/
def Request.image (r : Request) : Reply → Except Fault (List UInt8)
  | .answered answer =>
    if r.address.isAbsolute then answer.image.mapError .preview
    else .error (.addressType (Text.quoted r.address.text))
  | .unanswered reason => .error (.preview (.request reason))
  | .failed fault => .error fault

def Request.logLine (r : Request) (status : Nat) : Text :=
  "HTTP Request: " ++ Request.method ++ " " ++ r.address.text ++ " \"HTTP/1.1 " ++
    toString status ++ " " ++ statusPhrase status ++ "\""

def requestAt (address zpl accept : Text) : Except Fault Request := do
  let body ← zpl.encoded.mapError .unencodable
  let address ← Address.ofText address
  (Text.Encoding.ascii.check accept).mapError .unencodable
  (Text.Encoding.ascii.check address.target.place).mapError .unencodable
  return { address := address.target, accept, body }

def request (base zpl : Text) (width height dpi : Number) (index : Nat) (accept : Text) :
    Journaled Request := do
  if width.atMost 0 || height.atMost 0 then Journaled.fail .labelSize
  let address ← address base width height dpi index
  Journaled.note (.request address)
  requestAt address zpl accept

def pageRequest (base zpl : Text) (page : Page) (index : Nat) (accept : Text) :
    Journaled Request := do
  let width ← (Number.int page.width).div (.int page.dpi)
  let height ← (Number.int page.height).div (.int page.dpi)
  request base zpl (.real width) (.real height) (.int page.dpi) index accept

end Preview
end LabelPress
