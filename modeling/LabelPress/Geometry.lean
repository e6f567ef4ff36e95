import LabelPress.Fault
import LabelPress.Text.Blank
import LabelPress.Text.Case

/-!
# Geometry of the page

Lengths are given in inches or millimetres, positions and sizes in dots of the printing device. A
dot may be fractional until a command is written. A page has a whole, positive number of dots.
-/

namespace LabelPress

inductive LengthUnit where
  | inch
  | millimeter
  deriving DecidableEq

namespace LengthUnit

def name : LengthUnit → Text
  | inch => "inch"
  | millimeter => "mm"

def inchNames : List Text := ["inch", "in", "inches"]
def millimeterNames : List Text := ["mm", "millimeter", "millimetre", "millimeters"]

def ofName? (name : Text) : Option LengthUnit :=
  let key := Text.lower (Text.strip name)
  if inchNames.contains key then some inch
  else if millimeterNames.contains key then some millimeter
  else none

def ofName (name : Text) : Except Fault LengthUnit :=
  match ofName? name with
  | some unit => .ok unit
  | none => .error (.unit (Text.quoted name))

end LengthUnit

def millimetersPerInch : Binary64 := .ofRat (127 / 5)

def toDots (length : Number) (unit : LengthUnit) (dpi : Number) : Except ArithmeticFault Int := do
  match unit with
  | .inch => (← length.mul dpi).roundHalfUp
  | .millimeter =>
    let inches ← length.div (.real millimetersPerInch)
    (← (Number.real inches).mul dpi).roundHalfUp

def fromDots (dots : Number) (unit : LengthUnit) (dpi : Number) :
    Except ArithmeticFault Binary64 := do
  let inches ← dots.div dpi
  match unit with
  | .inch => return inches
  | .millimeter => return inches.mul millimetersPerInch

structure Point where
  x : Number := .real (.zero false)
  y : Number := .real (.zero false)
  deriving DecidableEq

namespace Point

def rounded (p : Point) : Except ArithmeticFault (Nat × Nat) := do
  let x ← p.x.roundDots
  let y ← p.y.roundDots
  return (x, y)

def agrees (eq : Number → Number → Bool) (p q : Point) : Bool := eq p.x q.x && eq p.y q.y

end Point

/-- A page: the resolution of the device in dots per inch, and the size in dots. -/
structure Page where
  dpi : Nat
  width : Nat
  height : Nat
  dpi_pos : 0 < dpi
  width_pos : 0 < width
  height_pos : 0 < height
  deriving DecidableEq

namespace Page

def positive (field : Text) (v : Value) : Except Fault { n : Nat // 0 < n } := do
  let whole := match v with
    | .number (.int n) => positive? n
    | _ => none
  match whole with
  | some n => return n
  | none => throw (.geometry field (← v.shown))

def ofFields (dpi width height : Value) : Except Fault Page := do
  let ⟨d, hd⟩ ← positive "dpi" dpi
  let ⟨w, hw⟩ ← positive "width_dots" width
  let ⟨h, hh⟩ ← positive "height_dots" height
  return ⟨d, w, h, hd, hw, hh⟩

def ofSize (width height : Number) (unit : LengthUnit) (dpi : Value) : Except Fault Page := do
  let ⟨d, _⟩ ← positive "dpi" dpi
  let w ← toDots width unit (.int d)
  let h ← toDots height unit (.int d)
  ofFields dpi (.number (.int w)) (.number (.int h))

def ofNamedSize (width height : Number) (unit : Text) (dpi : Value) : Except Fault Page := do
  let _ ← positive "dpi" dpi
  ofSize width height (← LengthUnit.ofName unit) dpi

end Page
end LabelPress
