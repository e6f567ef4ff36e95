import LabelPress.Document.Text
import LabelPress.Handmade.Item

/-!
# Drafts

A draft is a page with items. One whose items are all elements is a design. It is written as a
document with the values that its fields have, and what is read back from a document is a design.
-/

namespace LabelPress.Handmade

def payloadDocument (payload : Value) : Except Fault Value :=
  let get (name : Text) := payload.entries.getOrNull name
  let typed (kind : PayloadKind) (names : List Text) : Value :=
    .ofFields (("type", .text kind.word) :: names.map fun name => (name, get name))
  match payload, PayloadKind.ofValue? (get "t") with
  | .mapping _, some .barcode => .ok (typed .barcode ["format", "value"])
  | .mapping _, some .qr => .ok (typed .qr ["value"])
  | .mapping _, some .raster => .ok (typed .raster ["source"])
  | v, _ => .error (.noAttribute v.qualifiedTypeName "source")

namespace Item

def ownFields (i : Item) (kind : ElementKind) : Except Fault (List (Text × Value)) := do
  let named (names : List Text) : Except Fault (List (Text × Value)) :=
    names.mapM fun name => return (name, ← i.field name)
  match kind with
  | .text => named ["text", "font_size", "angle", "is_dynamic", "field_key"]
  | .rectangle => named ["width", "height", "fill", "stroke_width"]
  | .line =>
    let points := [← i.coordinate "start" "x", ← i.coordinate "start" "y",
      ← i.coordinate "end" "x", ← i.coordinate "end" "y"]
    return ("points", .list points) :: (← named ["stroke_width"])
  | .circle => named ["radius", "radius_y", "stroke_width"]
  | .media =>
    let fields ← named ["width", "height", "angle", "is_dynamic", "field_key"]
    let payload : Text × Value := ("payload", ← payloadDocument (← i.field "payload"))
    return fields ++ [payload]

def toValue (i : Item) : Except Fault Value := do
  match i.element? with
  | some e => return e.toValue
  | none => match i with
    | .element kind _ =>
      let x ← i.coordinate "position" "x"
      let y ← i.coordinate "position" "y"
      let stroke : List (Text × Value) := if i.stroke.isNull then [] else [("stroke", i.stroke)]
      let common : List (Text × Value) := [("kind", .text kind.word), ("x", x), ("y", y)]
      return .ofFields (common ++ stroke ++ (← i.ownFields kind))
    | .drawn typeName _ => throw (.unwritable typeName)
    | .other v => throw (.noAttribute v.qualifiedTypeName "position")

end Item

structure Draft where
  page : Page
  items : List Item

namespace Draft

def ofDesign (d : Design) : Draft := ⟨d.page, d.elements.map Item.ofElement⟩

def design? (d : Draft) : Option Design := do return ⟨d.page, ← d.items.mapM Item.element?⟩

def toValue (d : Draft) : Except Fault Value := do
  return .ofFields [("page", d.page.toValue), ("elements", .list (← d.items.mapM Item.toValue))]

def toJson (indent : Option Nat) (d : Draft) : Except Fault String := do
  Json.render indent (← d.toValue)

def toYaml (d : Draft) : Except Fault String := do Yaml.render (← d.toValue)

def reread [Host] (format : DocumentFormat) (d : Draft) : Journaled Design := do
  let text ← match format with
    | .json => d.toJson none
    | .yaml => d.toYaml
  Design.ofText format text

def redocumented (d : Draft) : Journaled Design := do Design.ofValue none (← d.toValue)

def itemsAgree (eq : Number → Number → Bool) : List Item → List Item → Bool
  | [], [] => true
  | a :: as, b :: bs => a.agrees eq b && itemsAgree eq as bs
  | _, _ => false

def agrees (eq : Number → Number → Bool) (design : Design) (d : Draft) : Bool :=
  design.page == d.page && itemsAgree eq (ofDesign design).items d.items

/-- Whether what is read back from the draft equals it: from its document, from its JSON and from
its YAML. Numbers are compared by their values. What is no number equals nothing but itself: it
stays itself where it is only handed on, and where it is the constant that the readers of the format
know. -/
def survival [Host] (d : Draft) : Journaled (Bool × Bool × Bool) := do
  let fromDocument ← d.redocumented
  let fromJson ← d.reread .json
  let fromYaml ← d.reread .yaml
  let handedOn (a b : Number) : Bool := a.rank == b.rank
  return (d.agrees handedOn fromDocument, d.agrees Number.alike fromJson,
    d.agrees Number.alike fromYaml)

end Draft
end LabelPress.Handmade
