import LabelPress.Fault

/-!
# Fields of documents

The entries of a mapping are read by their names. A null counts as a missing entry; an entry of the
wrong type is a fault that shows it.
-/

namespace LabelPress

def Value.isCompound : Value → Bool
  | .scalar _ | .set _ | .pair _ _ => false
  | .list _ | .mapping _ | .loop _ _ | .again _ _ => true

/-- The entries of a value that must be a mapping; `what` names it in the fault. -/
def Value.mustMap (what : Text) (v : Value) : Except Fault Entries :=
  match v.head with
  | .mapping entries => .ok entries
  | _ => .error (.design (.notMapping what v.typeName))

namespace Entries

def optionalNumber (name : Text) (entries : Entries) : Except Fault (Option Number) := do
  match entries.getOrNull name with
  | .null => return none
  | v => match v.number? with
    | some n => return some n
    | none => throw (.design (.notNumber name (← v.shown)))

def number (name : Text) (default : Number) (entries : Entries) : Except Fault Number := do
  return (← entries.optionalNumber name).getD default

def optionalText (name : Text) (entries : Entries) : Except Fault (Option Text) := do
  match entries.getOrNull name with
  | .null => return none
  | v =>
    if v.isCompound then throw (.design (.notScalar name (← v.shown)))
    return some (← v.printed)

def flag (name : Text) (default : Bool) (entries : Entries) : Bool :=
  match entries.get? name with
  | some v => v.isTrue
  | none => default

end Entries
end LabelPress
