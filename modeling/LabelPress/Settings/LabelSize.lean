import LabelPress.Geometry

/-!
# Label sizes

The common sizes of labels, by their names.
-/

namespace LabelPress

structure LabelSize where
  name : Text
  width : Nat
  height : Nat
  unit : LengthUnit
  deriving DecidableEq

namespace LabelSize

def presets : List LabelSize := [
  ⟨"4x6 Shipping", 4, 6, .inch⟩,
  ⟨"2x1 Part Label", 2, 1, .inch⟩,
  ⟨"100x50mm", 100, 50, .millimeter⟩,
  ⟨"50x25mm Small", 50, 25, .millimeter⟩]

def ofName (name : Text) : Except Fault LabelSize :=
  match presets.find? fun p => Text.lower p.name == Text.lower (Text.strip name) with
  | some size => .ok size
  | none => .error (.settings (.labelSize (Text.quoted name) (presets.map (·.name))))

def page (size : LabelSize) (dpi : Value) : Except Fault Page :=
  Page.ofSize (.int size.width) (.int size.height) size.unit dpi

end LabelSize
end LabelPress
