import LabelPress.Field.Binding
import LabelPress.Handmade.Spec

/-!
# Bindings of any types

What stands for bindings may be a mapping or anything else, and so may the key of a field. What
counts as false stands for no bindings; everything else is asked for the key.
-/

namespace LabelPress.Handmade

def lookUp (bindings key : Value) : Except Fault Value := do
  if !bindings.isTrue then
    discard key.asKey
    return .null
  match bindings.head with
  | .mapping entries =>
    let key ← key.asKey
    return ((List.find? (fun e => e.1.same key) entries).map (·.2)).getD .null
  | v => throw (.noAttribute v.qualifiedTypeName "get")

def specOf? (catalog : Option Catalog) (key : Value) : Except Fault (Option Spec) :=
  match catalog with
  | none => .ok none
  | some c => do return Catalog.find? c (← key.asKey)

def isMissing : Value → Bool
  | .null => true
  | .text s => s.isEmpty
  | _ => false

def renderBound (spec : Option Spec) (v : Value) : Except Fault Text := do
  match spec with
  | some spec => spec.render v
  | none => v.printed

def fallback? (spec : Option Spec) : Option Value :=
  (spec.map Spec.fallback).filter fun v => !v.isNull

def placeholder (key : Value) : Except Fault Value := do
  (← (Value.text "\x7b\x7b").add key).add (.text "\x7d\x7d")

def resolveField (key bindings : Value) (catalog : Option Catalog) : Except Fault Value := do
  let v ← lookUp bindings key
  let spec ← specOf? catalog key
  if isMissing v then
    match fallback? spec with
    | some v => return v
    | none => placeholder key
  else return .text (← renderBound spec v)

end LabelPress.Handmade
