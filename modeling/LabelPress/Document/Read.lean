import LabelPress.Document.Field
import LabelPress.Element.Kind
import LabelPress.Journal

/-!
# Designs from documents

A document holds a page and a list of elements, each a mapping with its kind. Missing fields take
their defaults and fields of the wrong type are faults, but an element of an unknown kind, or with
an unknown payload, is passed over with a note.
-/

namespace LabelPress

def Page.defaultDpi : Number := 203

def Page.unitOf (entries : Entries) : Except Fault LengthUnit := do
  match ((entries.get? "unit").getD (.text LengthUnit.inch.name)).printed with
  | .error fault => throw (.design (.pageUnitDigits fault))
  | .ok name => match LengthUnit.ofName? name with
    | some unit => return unit
    | none => throw (.design (.pageUnit (Text.quoted name)))

def Page.ofValue (v : Value) : Except Fault Page := do
  let entries ← v.mustMap "page"
  let dpi := (entries.get? "dpi").getD (.number Page.defaultDpi)
  if entries.has "width_dots" || entries.has "height_dots" then
    let dots (name : Text) := (entries.get? name).getD (.number 0)
    return ← Page.ofFields dpi (dots "width_dots") (dots "height_dots")
  if !(entries.has "width" && entries.has "height") then throw (.design .pageSize)
  let unit ← Page.unitOf entries
  let width ← entries.number "width" 0
  let height ← entries.number "height" 0
  Page.ofSize width height unit dpi

def Point.ofEntries (entries : Entries) : Except Fault Point := do
  let x ← entries.number "x" 0
  let y ← entries.number "y" 0
  return ⟨x, y⟩

def TextField.ofEntries (position : Point) (stroke : Option Text) (entries : Entries) :
    Except Fault TextField := do
  let text ← entries.optionalText "text"
  let fontSize ← entries.number "font_size" 20
  let angle ← entries.number "angle" 0
  let fieldKey ← entries.optionalText "field_key"
  return {
    position, fontSize, angle, fieldKey, stroke
    text := text.getD ""
    isDynamic := entries.flag "is_dynamic" false }

def Rectangle.ofEntries (position : Point) (stroke : Option Text) (entries : Entries) :
    Except Fault Rectangle := do
  let width ← entries.number "width" 0
  let height ← entries.number "height" 0
  let fill ← entries.optionalText "fill"
  let strokeWidth ← entries.number "stroke_width" 1
  return { position, width, height, fill, strokeWidth, stroke }

def Line.endsOf (v : Value) : Except Fault (Point × Point) := do
  match v.head with
  | .null => return (⟨0, 0⟩, ⟨100, 0⟩)
  | .list [a, b, c, d] =>
    match a.number?, b.number?, c.number?, d.number? with
    | some x₁, some y₁, some x₂, some y₂ => return (⟨x₁, y₁⟩, ⟨x₂, y₂⟩)
    | _, _, _, _ => throw (.design (.points (← v.shown)))
  | _ => throw (.design (.points (← v.shown)))

def Line.ofEntries (position : Point) (stroke : Option Text) (entries : Entries) :
    Except Fault Line := do
  let (start, finish) ← Line.endsOf (entries.getOrNull "points")
  let strokeWidth ← entries.number "stroke_width" 1
  return { position, start, finish, strokeWidth, stroke }

def Circle.ofEntries (position : Point) (stroke : Option Text) (entries : Entries) :
    Except Fault Circle := do
  let radius ← entries.number "radius" 0
  let radiusY ← entries.optionalNumber "radius_y"
  let strokeWidth ← entries.number "stroke_width" 1
  return { position, radius, radiusY, strokeWidth, stroke }

/-- The payload of a medium; none for a mapping of an unknown type. -/
def Payload.ofValue? (v : Value) : Except Fault (Option Payload) := do
  match v with
  | .null => return some (.raster none)
  | v =>
    let entries ← v.mustMap "payload"
    match (entries.get? "type").elim (some .raster) PayloadKind.ofValue? with
    | some .barcode =>
      let format ← entries.optionalText "format"
      return some (.barcode (formatName format) (← entries.optionalText "value"))
    | some .qr => return some (.qr (← entries.optionalText "value"))
    | some .raster => return some (.raster (← entries.optionalText "source"))
    | none => return none

/-- The medium of an element's mapping; none if its payload is of an unknown type. -/
def Media.ofEntries? (position : Point) (stroke : Option Text) (entries : Entries) :
    Except Fault (Option Media) := do
  match ← Payload.ofValue? (entries.getOrNull "payload") with
  | none => return none
  | some payload =>
    let width ← entries.number "width" 100
    let height ← entries.number "height" 100
    let angle ← entries.number "angle" 0
    let fieldKey ← entries.optionalText "field_key"
    return some {
      position, payload, width, height, angle, fieldKey, stroke
      isDynamic := entries.flag "is_dynamic" false }

/-- The element that a value stands for; none if it is of an unknown kind or payload. Position and
stroke are read before the kind is looked at. -/
def Element.ofValue? (v : Value) : Except Fault (Option Element) := do
  let entries ← v.mustMap "element"
  let position ← Point.ofEntries entries
  let stroke ← entries.optionalText "stroke"
  match ElementKind.ofValue? (entries.getOrNull "kind") with
  | none => return none
  | some .text => return some (.text (← TextField.ofEntries position stroke entries))
  | some .rectangle => return some (.rectangle (← Rectangle.ofEntries position stroke entries))
  | some .line => return some (.line (← Line.ofEntries position stroke entries))
  | some .circle => return some (.circle (← Circle.ofEntries position stroke entries))
  | some .media => return (← Media.ofEntries? position stroke entries).map .media

def numbered (start : Nat) : List α → List (Nat × α)
  | [] => []
  | a :: rest => (start, a) :: numbered (start + 1) rest

/-- The elements of the entries of a list; the others are noted by their places. -/
def Element.readAll (read : Value → Except Fault (Option Element)) (skipped : Nat → Note)
    (entries : List Value) : Journaled (List Element) := do
  let found ← Journaled.forEach (fun (index, v) => do
    match ← (read v : Except Fault _) with
    | none =>
      Journaled.note (skipped index)
      return none
    | some e => return some e) (numbered 0 entries)
  return found.reduceOption

def Page.ofDocument (root : Entries) (default : Option Page) (missing : DesignFault) :
    Except Fault Page :=
  match root.get? "page", default with
  | some v, _ => Page.ofValue v
  | none, some page => .ok page
  | none, none => .error (.design missing)

/-- The entries of the list of elements; what counts as false is an empty list. -/
def Design.entriesOf (v : Value) : Except Fault (List Value) :=
  if v.isTrue then
    match v.head with
    | .list items => .ok items
    | _ => .error (.design .elements)
  else .ok []

/-- The design of a document; `default` is the page where the document names none. -/
def Design.ofValue (default : Option Page) (v : Value) : Journaled Design := do
  let root ← v.mustMap "design"
  let page ← Page.ofDocument root default .noPage
  let entries ← Design.entriesOf (root.getOrNull "elements")
  let elements ← Element.readAll Element.ofValue? .skippedEntry entries
  return { page, elements }

end LabelPress
