import LabelPress.Field.Catalog
import LabelPress.Handmade.Operand

/-!
# Specifications put together by hand

A field specification may have values of any types. They are printed as they are; the key must be a
scalar for the specification to be found.
-/

namespace LabelPress.Handmade

structure Spec where
  key : Value
  label : Value
  category : FieldCategory := .custom
  pattern : Value := .null
  lead : Value := .text ""
  trail : Value := .text ""
  fallback : Value := .null

abbrev Catalog := List Spec

namespace Spec

def ofField (s : FieldSpec) : Spec where
  key := .text s.key
  label := .text s.label
  category := s.category
  pattern := .ofText? s.pattern
  lead := .text s.lead
  trail := .text s.trail
  fallback := .ofText? s.fallback

def field? (s : Spec) : Option FieldSpec := do
  return {
    key := ← s.key.text?
    label := ← s.label.text?
    category := s.category
    pattern := ← s.pattern.unlessNull? Value.text?
    lead := ← s.lead.text?
    trail := ← s.trail.text?
    fallback := ← s.fallback.unlessNull? Value.text? }

def body (s : Spec) (v : Value) : Except Fault Text := do
  if !s.pattern.isTrue then return ← v.printed
  match v.moment? with
  | some moment =>
    (Pattern.format (← s.pattern.textFor "replace") moment).mapError .unencodable
  | none => v.printed

def render (s : Spec) (v : Value) : Except Fault Text := do
  match s.field? with
  | some field => field.render v
  | none =>
    let text ← s.body v
    let lead ← s.lead.printed
    return lead ++ text ++ (← s.trail.printed)

end Spec

namespace Catalog

def find? (c : Catalog) (key : Scalar) : Option Spec :=
  List.find? (fun s => match s.key with
    | .scalar k => k.same key
    | _ => false) c

def ofSpecs (specs : List Spec) : Except Fault Catalog :=
  specs.foldlM (fun (c : Catalog) s => do
    let key ← s.key.asKey
    if (find? c key).isSome then throw (.duplicateKey (← s.key.shown))
    return c ++ [s]) []

def get (c : Catalog) (key : Value) : Except Fault Spec := do
  match find? c (← key.asKey) with
  | some spec => return spec
  | none => throw (.unknownKey (← key.shown))

def builtin : Catalog := LabelPress.Catalog.builtinSpecs.map Spec.ofField

def typed? (c : Catalog) : Option LabelPress.Catalog := do
  (LabelPress.Catalog.ofSpecs (← c.mapM Spec.field?)).toOption

end Catalog
end LabelPress.Handmade
