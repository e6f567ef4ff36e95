import LabelPress.Canvas.Object
import LabelPress.Document.Read
import LabelPress.Json.Reader

/-!
# Designs from canvases

A canvas holds a list of objects and no page. Objects that cannot be printed are passed over with a
note.
-/

namespace LabelPress.Canvas

/-- The element of an item in a list of objects; none for an item that is no object. -/
def itemElement? (v : Value) : Except Fault (Option Element) :=
  match v.head with
  | .mapping entries => element? entries
  | _ => .ok none

def unpacked (v : Value) : Except Fault Value :=
  match v with
  | .text s => (Json.parse s).mapError (ReadFault.toFault fun fault => .design (.canvasJson fault))
  | v => .ok v

def objects (v : Value) : Except Fault (List Value) :=
  match v.head with
  | .mapping entries => match (Entries.get? "objects" entries).map Value.head with
    | none => .ok []
    | some (.list items) => .ok items
    | some _ => .error (.design .objects)
  | _ => .error (.design .canvas)

def design (page : Page) (canvas : Value) : Journaled Design := do
  let canvas ← unpacked canvas
  let items ← (objects canvas : Except Fault _)
  let elements ← Element.readAll itemElement? .skippedObject items
  return { page, elements }

end LabelPress.Canvas
