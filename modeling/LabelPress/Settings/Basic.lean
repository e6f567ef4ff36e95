import LabelPress.Files.Tree
import LabelPress.Journal
import LabelPress.Label.Target
import LabelPress.Settings.LabelSize
import LabelPress.Yaml.Value

/-!
# Settings

What a file of settings may change: the resolution and size of labels that name none, how they are
compiled, and where previews come from. A file is laid over the defaults, and unknown keys and
values that make no sense are refused.
-/

namespace LabelPress

/-- A positive amount. The truth value that is true counts as one, and is kept as it was given. -/
inductive Amount where
  | number (n : Number)
  | one
  deriving DecidableEq

namespace Amount

def toNumber : Amount → Number
  | number n => n
  | one => 1

def toValue : Amount → Value
  | number n => .number n
  | one => .bool true

end Amount

structure Settings where
  dpi : Nat
  labelSize : LabelSize
  /-- The name of the label size as it was given. -/
  labelSizeName : Text
  guideColor : Text
  fontScale : Amount
  labelHome : Bool
  previewUrl : Text
  previewTimeout : Amount
  dpi_pos : 0 < dpi

namespace Settings

def defaults : List (Text × Value) := [
  ("dpi", .number 203),
  ("label_size", .text "4x6 Shipping"),
  ("guide_color", .text "#f0f0f0"),
  ("font_scale", .number (.real (.ofRat (3 / 2)))),
  ("label_home", .bool false),
  ("preview_url", .text "https://api.labelary.com/v1"),
  ("preview_timeout_s", .number (.real (.ofInt 10)))]

def keys : List Text := defaults.map (·.1)

def valueOf (key : Text) (values : Entries) : Value := (values.get? key).getD .null

def dpiOf (values : Entries) : Except Fault { n : Nat // 0 < n } := do
  let v := valueOf "dpi" values
  let whole := match v with
    | .number (.int n) => positive? n
    | _ => none
  match whole with
  | some n => return n
  | none => throw (.settings (.dpi (← v.shown)))

/-- A setting that must be a positive number. What is no number in order counts as positive. -/
def amountOf (key : Text) (values : Entries) : Except Fault Amount := do
  match valueOf key values with
  | .bool true => return .one
  | .number n =>
    if n.atMost 0 then throw (.settings (.notPositive key (← (Value.number n).shown)))
    return .number n
  | v => throw (.settings (.notPositive key (← v.shown)))

def textOf (key : Text) (values : Entries) : Except Fault Text := do
  match valueOf key values with
  | .text s => return s
  | v => throw (.settings (.notText key (← v.shown)))

def homeOf (values : Entries) : Except Fault Bool := do
  match valueOf "label_home" values with
  | .bool b => return b
  | v => throw (.settings (.labelHome (← v.shown)))

def orderKind : Scalar → Nat
  | .null => 0
  | .bool _ | .number _ => 1
  | .text _ => 2
  | .date _ => 3
  | .dateTime _ => 4
  | .time _ => 5
  | .bytes _ => 6

/-- The fault of unknown keys: texts are listed in order. Other keys cannot be listed, and of keys
without an order between them the first such two are told. -/
def unknownFault (unknown : List Scalar) : Fault :=
  let texts := unknown.filterMap fun
    | .text s => some s
    | _ => none
  if texts.length = unknown.length then
    .settings (.unknownKeys (texts.mergeSort fun a b => !(b < a)))
  else
    let first := unknown.headD .null
    let typeOf (s : Scalar) := (Value.scalar s).qualifiedTypeName
    match unknown.find? fun s => orderKind s != orderKind first with
    | some other => .incomparable "<" (typeOf other) (typeOf first)
    | none =>
      let before (a b : Scalar) := match a.toNumber?, b.toNumber? with
        | some m, some n => !n.less m
        | _, _ => true
      .keyName (typeOf ((unknown.mergeSort before).headD .null))

def ofValues (values : Entries) : Except Fault Settings := do
  let isKnown : Scalar → Bool
    | .text s => keys.contains s
    | _ => false
  let unknown := (values.map (·.1)).filter fun k => !isKnown k
  if !unknown.isEmpty then throw (unknownFault unknown)
  let ⟨dpi, dpi_pos⟩ ← dpiOf values
  let fontScale ← amountOf "font_scale" values
  let previewTimeout ← amountOf "preview_timeout_s" values
  let guideColor ← textOf "guide_color" values
  let labelSizeName ← textOf "label_size" values
  let previewUrl ← textOf "preview_url" values
  let labelHome ← homeOf values
  let labelSize ← LabelSize.ofName labelSizeName
  return { dpi, labelSize, labelSizeName, guideColor, fontScale, labelHome, previewUrl,
           previewTimeout, dpi_pos }

def overridesOf [Host] (path : FilePath) (text : Text) : Except Fault Entries := do
  let wrap (fault : SyntaxFault) : Fault := .settings (.unparsable path.text fault)
  match (← (Yaml.parse text).mapError (ReadFault.toFault wrap)).head with
  | .null => return []
  | .mapping entries => return entries
  | _ => throw (.settings (.notMapping path.text))

def overlay (overrides : Entries) : Entries :=
  Entries.ofList ((defaults.map fun (k, v) => (Scalar.text k, v)) ++ overrides)

def load [Host] (files : FileTree) (path : Option Text) : Journaled Settings := do
  match path with
  | none => ofValues (overlay [])
  | some name =>
    let path := FilePath.ofText name
    let text ← files.readText path fun fault => .settings (.unreadable path.text fault)
    let overrides ← overridesOf path text
    Journaled.note (.overrides overrides.length name)
    ofValues (overlay overrides)

def defaultPage (s : Settings) : Except Fault Page := s.labelSize.page (.number (.int s.dpi))

def target (s : Settings) (catalog : Option Catalog) (copies : { n : Nat // 0 < n }) : Target := {
  catalog
  guideColor := s.guideColor
  fontScale := s.fontScale.toNumber
  labelHome := s.labelHome
  copies := copies.val
  copies_pos := copies.property }

def toValue (s : Settings) : Value := .ofFields [
  ("dpi", .number (.int s.dpi)),
  ("label_size", .text s.labelSizeName),
  ("guide_color", .text s.guideColor),
  ("font_scale", s.fontScale.toValue),
  ("label_home", .bool s.labelHome),
  ("preview_url", .text s.previewUrl),
  ("preview_timeout_s", s.previewTimeout.toValue)]

end Settings
end LabelPress
