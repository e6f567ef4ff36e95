import LabelPress.Handmade.Press

/-!
# Sessions

A session keeps a press and a draft, with which labels are made one after the other. Before a draft
has been loaded there is none to work with.
-/

namespace LabelPress.Handmade

structure Session where
  press : Press := {}
  draft : Option Draft := none

namespace Session

/-- The draft, of which `part` is needed. -/
def needed (s : Session) (part : Text) : Journaled Draft :=
  match s.draft with
  | some d => .pure d
  | none => .fail (.noAttribute Scalar.null.typeName part)

def print (s : Session) (bindings : Value) : Journaled Print := do
  s.press.print bindings (← s.needed "page")

/-- The labels of the draft for sets of bindings. Without sets no draft is needed. -/
def printAll (s : Session) (sets : Value) : Journaled Text :=
  s.press.printAll sets (s.needed "page")

def placeLimit : Nat := 9223372036854775808

/-- The item of a list at a place, which may be counted from the end by negative numbers. -/
def itemAt (items : List α) (index : Value) : Except Fault α :=
  match index.whole? with
  | none => .error (.indexType index.qualifiedTypeName)
  | some n =>
    if (placeLimit : Int) ≤ n || n < -(placeLimit : Int) then .error .indexSize
    else
      let place := if n < 0 then n + items.length else n
      match if place < 0 then none else items[place.toNat]? with
      | some a => .ok a
      | none => .error .index

def encode (s : Session) (index bindings : Value) : Journaled (List Command) := do
  let draft ← s.needed "elements"
  s.press.encode bindings (← (itemAt draft.items index : Except Fault Item))

def dump (s : Session) : Journaled (Value × String × String) := do
  let draft ← s.needed "page"
  let value ← (draft.toValue : Except Fault Value)
  let json ← draft.toJson none
  let yaml ← draft.toYaml
  return (value, json, yaml)

def reload [Host] (s : Session) (format : DocumentFormat) : Journaled Session := do
  return { s with draft := some (Draft.ofDesign (← (← s.needed "page").reread format)) }

end Session
end LabelPress.Handmade
