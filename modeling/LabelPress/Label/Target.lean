import LabelPress.Command.Frame
import LabelPress.Label.Commands

/-!
# Compiling a design

A target says how labels are made: with which field catalog, which stroke colour marks the guides of
the designer's grid, how much larger the font is than on the screen, and in how many copies.
Compiling puts the commands of the elements, in order, between those of the frame. Guides, and
barcodes that cannot be printed, are skipped.
-/

namespace LabelPress

structure Target where
  catalog : Option Catalog := none
  guideColor : Text := "#f0f0f0"
  fontScale : Number := .real (.ofRat (3 / 2))
  labelHome : Bool := false
  copies : Nat := 1
  copies_pos : 0 < copies := by decide

structure Label where
  page : Page
  commands : List Command
  elementCount : Nat
  skippedCount : Nat
  copies : Nat

namespace Label

def text (l : Label) : Text := Command.joined (l.commands.map Command.text)

def commandCount (l : Label) : Nat := l.commands.length

def summaryOf (commandCount skippedCount : Nat) : Text :=
  "Generated " ++ toString commandCount ++ " command(s), skipped " ++ toString skippedCount ++
    " element(s)"

def summary (l : Label) : Text := summaryOf l.commandCount l.skippedCount

def emptyCount (parts : List (List Command)) : Nat := parts.countP (·.isEmpty)

end Label

def isGuideStroke (guideColor : Text) (stroke : Option Text) : Bool :=
  match stroke with
  | none => false
  | some s => Text.lower (Text.strip s) == Text.lower guideColor

namespace Element

def isGuide (guideColor : Text) (e : Element) : Bool := isGuideStroke guideColor e.stroke

def commands (e : Element) (bindings : Entries) (catalog : Option Catalog) (fontScale : Number) :
    Journaled (List Command) :=
  match e with
  | text t => t.commands bindings catalog fontScale
  | rectangle r => Journaled.ofArithmetic r.commands
  | line l => Journaled.ofArithmetic l.commands
  | circle c => Journaled.ofArithmetic c.commands
  | media m => m.commands bindings catalog

end Element

namespace Target

def names : List Text := ["zpl"]

def known (name : Text) : Except Fault Unit :=
  if names.contains name then .ok () else .error (.target (Text.quoted name))

def encode (t : Target) (bindings : Entries) (e : Element) : Journaled (List Command) := do
  if e.isGuide t.guideColor then
    Journaled.note (.skippedGuide e.kind.typeName)
    return []
  e.commands bindings t.catalog t.fontScale

/-- A label of the commands that `encode` gives for each item on a page. -/
def assemble (t : Target) (page : Page) (encode : α → Journaled (List Command))
    (items : List α) : Journaled Label := do
  let opening ← Frame.opening page t.labelHome
  let parts ← Journaled.forEach encode items
  let closing ← Frame.closing t.copies
  return {
    page
    commands := opening ++ parts.flatten ++ closing
    elementCount := items.length
    skippedCount := Label.emptyCount parts
    copies := t.copies }

def compile (t : Target) (bindings : Entries) (d : Design) : Journaled Label :=
  t.assemble d.page (t.encode bindings) d.elements

def compileBatch (t : Target) (sets : List Entries) (d : Design) : Journaled Text := do
  let labels ← Journaled.forEach (t.compile · d) sets
  return Command.joined (labels.map Label.text)

end Target
end LabelPress
