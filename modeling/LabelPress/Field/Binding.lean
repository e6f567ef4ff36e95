import LabelPress.Field.Catalog

/-!
# Bindings

Bindings give the fields of a label their values. What prints for a field is its bound value, or
the catalog's fallback, or a token that shows the key.
-/

namespace LabelPress

/-- The value of a field that is bound; nulls and empty texts count as missing. -/
def Entries.bound? (bindings : Entries) (key : Text) : Option Value :=
  match bindings.get? key with
  | some .null => none
  | some (.text s) => if s.isEmpty then none else some (.text s)
  | found => found

def specOf? (catalog : Option Catalog) (key : Text) : Option FieldSpec :=
  catalog.bind (·.get? key)

def placeholder (key : Text) : Text := "\x7b\x7b" ++ key ++ "\x7d\x7d"

def renderBound (spec : Option FieldSpec) (v : Value) : Except Fault Text :=
  match spec with
  | some spec => spec.render v
  | none => v.printed.mapError .arithmetic

def fieldText? (key : Text) (bindings : Entries) (catalog : Option Catalog) :
    Except Fault (Option Text) :=
  let spec := specOf? catalog key
  match bindings.bound? key with
  | some v => (renderBound spec v).map some
  | none => .ok (spec.bind (·.fallback))

def resolveField (key : Text) (bindings : Entries) (catalog : Option Catalog) :
    Except Fault Text :=
  (fieldText? key bindings catalog).map (·.getD (placeholder key))

end LabelPress
