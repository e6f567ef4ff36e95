import LabelPress.Calendar.Pattern
import LabelPress.Fault

/-!
# Field specifications

A field is a place in a label that a binding fills. Its specification says how a bound value is
printed: dates by a pattern, and every value between a lead and a trail.
-/

namespace LabelPress

inductive FieldCategory where
  | order
  | customer
  | system
  | custom
  deriving DecidableEq

namespace FieldCategory

def word : FieldCategory → Text
  | order => "order"
  | customer => "customer"
  | system => "system"
  | custom => "custom"

def all : List FieldCategory := [order, customer, system, custom]

def ofWord (w : Text) : Except Fault FieldCategory :=
  match all.find? fun c => c.word == w with
  | some c => .ok c
  | none => .error (.category (Text.quoted w))

end FieldCategory

structure FieldSpec where
  key : Text
  label : Text
  category : FieldCategory := .custom
  /-- The pattern of dates and times. -/
  pattern : Option Text := none
  /-- What stands before a value. -/
  lead : Text := ""
  /-- What stands after a value. -/
  trail : Text := ""
  /-- What is printed in place of a missing value. -/
  fallback : Option Text := none
  deriving DecidableEq

/-- The moment that a value names: that of a date or time, or of a text in ISO form. A date stands
for its midnight, a time for one of the first day of 1900. -/
def Value.moment? : Value → Option DateTime
  | .text s => DateTime.ofIso? s
  | .scalar (.date d) => some ⟨d, .midnight⟩
  | .scalar (.dateTime t) => some t
  | .scalar (.time t) => some ⟨.epoch1900, t⟩
  | _ => none

namespace FieldSpec

def body (spec : FieldSpec) (v : Value) : Except Fault Text :=
  match spec.pattern.filter (!·.isEmpty), v.moment? with
  | some pattern, some moment => (Pattern.format pattern moment).mapError .unencodable
  | _, _ => v.printed.mapError .arithmetic

def render (spec : FieldSpec) (v : Value) : Except Fault Text := do
  return spec.lead ++ (← spec.body v) ++ spec.trail

end FieldSpec
end LabelPress
