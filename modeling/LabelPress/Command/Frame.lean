import LabelPress.Command.Basic
import LabelPress.Geometry

/-!
# The frame of a label format

Every format opens with the text encoding and the size of the page, and closes with the number of
copies if there is more than one.
-/

namespace LabelPress.Frame

def writable (n : Nat) : Except Fault Unit :=
  if hasIntegerText n then .ok () else .error (.arithmetic .tooManyDigits)

/-- The commands before the elements; `home` pins the label to the corner of the page. -/
def opening (page : Page) (home : Bool) : Except Fault (List Command) := do
  writable page.width
  writable page.height
  return [.startFormat, .encodeUtf8, .printWidth page.width, .labelLength page.height] ++
    if home then [.labelHome] else []

def copies (n : Int) : Except Fault { n : Nat // 0 < n } :=
  match positive? n with
  | some k => .ok k
  | none => do throw (.copies (← integerText n))

def closing (copies : Nat) : Except Fault (List Command) := do
  if copies = 1 then return [.endFormat]
  writable copies
  return [.quantity copies, .endFormat]

end LabelPress.Frame
