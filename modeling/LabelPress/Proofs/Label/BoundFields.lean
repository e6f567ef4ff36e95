import LabelPress.Proofs.Label.References

/-!
# Texts and symbols that show one field

A text and a symbol may show the same field, the one for people and the other for scanners. They
print the same wherever the field has a value or a fallback. Where it has neither, the text shows a
token with the key, and the symbol has its own value or a default.
-/

namespace LabelPress
variable {key : Text} {bindings : Entries} {catalog : Option Catalog}

/-- What a field prints that is filled: its value, as its specification says, or else the fallback
of the specification. -/
inductive Fills (key : Text) (bindings : Entries) (catalog : Option Catalog) :
    Except Fault Text → Prop
  | value {v : Value} (hv : bindings.get? key = some v) (hgiven : v.isGiven = true) :
      Fills key bindings catalog (renderBound (specOf? catalog key) v)
  | fallback {spec : FieldSpec} {s : Text} (hmissing : bindings.IsMissing key)
      (hspec : specOf? catalog key = some spec) (hs : spec.fallback = some s) :
      Fills key bindings catalog (.ok s)

theorem exists_given_or_isMissing (key : Text) (bindings : Entries) :
    (∃ v, bindings.get? key = some v ∧ v.isGiven = true) ∨ bindings.IsMissing key := by
  by_cases hmissing : bindings.IsMissing key
  · exact Or.inr hmissing
  · simp only [Entries.IsMissing, not_forall, Bool.not_eq_false] at hmissing
    obtain ⟨v, hv, hgiven⟩ := hmissing
    exact Or.inl ⟨v, hv, hgiven⟩

theorem Fills.fieldText?_eq {x : Except Fault Text} (h : Fills key bindings catalog x) :
    fieldText? key bindings catalog = x.map some := by
  cases h with
  | value hv hgiven => exact fieldText?_of_given hv hgiven catalog
  | fallback hmissing hspec hs =>
    simp only [fieldText?, Entries.bound?_eq_none_iff.mpr hmissing, hspec, Option.bind_some, hs]
    rfl

def Media.ownText (value : Option Text) (default : Text) : Text :=
  match value with
  | none | some [] => default
  | some s => s

theorem Media.own_eq (value : Option Text) (default : Text) (bound : Option Text) :
    (bound.or (value.filter fun s => !s.isEmpty)).getD default =
      bound.getD (ownText value default) := by
  cases bound with
  | some s => rfl
  | none =>
    cases value with
    | none => rfl
    | some s => cases s <;> rfl

theorem Media.symbolText_of_key {m : Media} {value : Option Text} (default : Text)
    (h : m.key value = some key) : m.symbolText value default bindings catalog =
      (fieldText? key bindings catalog).map (·.getD (ownText value default)) := by
  simp only [symbolText, h, own_eq]
  rfl

theorem Media.symbolText_of_no_key {m : Media} {value : Option Text} (default : Text)
    (h : m.key value = none) :
    m.symbolText value default bindings catalog = .ok (ownText value default) := by
  simp only [symbolText, h, own_eq]
  rfl

end LabelPress
