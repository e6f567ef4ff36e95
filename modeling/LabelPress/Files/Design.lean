import LabelPress.Canvas.Design
import LabelPress.Document.Text
import LabelPress.Files.Tree

/-!
# Design files

A design file holds a document or a canvas, in JSON if its name says so and in YAML otherwise.
-/

namespace LabelPress

def FilePath.format (p : FilePath) : DocumentFormat :=
  if Text.lower p.suffix = ".json" then .json else .yaml

/-- The canvas of a document: one of its fields, or the document itself if it has objects. -/
def canvasOf (root : Entries) : Option Value :=
  match root.get? "canvas" with
  | some .null => none
  | some v => some v
  | none => if root.has "objects" then some (.mapping root) else none

def Design.ofFileValue (default : Option Page) (v : Value) : Journaled Design := do
  let root ← v.mustMap "design"
  match canvasOf root with
  | some canvas =>
    let page ← Page.ofDocument root default .canvasPage
    Canvas.design page canvas
  | none => ofValue default v

/-- The design of a file; `default` is the page where the file names none. -/
def Design.load [Host] (files : FileTree) (path : FilePath) (default : Option Page) :
    Journaled Design := do
  let text ← files.readText path fun fault => .design (.unreadable path.text fault)
  let v ← ((path.format.parse text).mapError
    (ReadFault.toFault fun fault => .design (.unparsable path.text fault)) : Except Fault Value)
  ofFileValue default v

end LabelPress
