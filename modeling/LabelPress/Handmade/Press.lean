import LabelPress.Handmade.Commands
import LabelPress.Handmade.Draft
import LabelPress.Settings.Basic

/-!
# Labels of drafts

How labels of a draft are made may be told by values of any types too. Sets of bindings are the
items of whatever can be gone through one by one.
-/

namespace LabelPress.Handmade

structure Press where
  catalog : Option Catalog := none
  guideColor : Value := .text ({} : Target).guideColor
  fontScale : Value := .number ({} : Target).fontScale
  labelHome : Value := .bool false
  copies : Value := .number 1

structure Print where
  page : Page
  lines : List Text
  elementCount : Nat
  skippedCount : Nat
  copies : Value

namespace Print

def text (p : Print) : Text := Command.joined p.lines

def summary (p : Print) : Text := Label.summaryOf p.lines.length p.skippedCount

end Print

def checkCopies (copies : Value) : Except Fault Unit := do
  if ← copies.lessThan 1 then throw (.copies (← copies.shown))

def closing (copies : Value) : Except Fault (List Text) := do
  checkCopies copies
  let several := (copies.operand?.map fun n => Number.less 1 n).getD false
  let quantity ← if several then do pure ["^PQ" ++ (← copies.printed)] else pure []
  return quantity ++ [Command.endFormat.text]

namespace Press

def ofSettings (s : Settings) (catalog : Option Catalog) (copies : Value) : Press where
  catalog
  guideColor := .text s.guideColor
  fontScale := .number s.fontScale.toNumber
  labelHome := .bool s.labelHome
  copies

def checked (p : Press) : Except Fault Press := do
  checkCopies p.copies
  return p

def setting (p : Press) (bindings : Value) : Setting :=
  ⟨bindings, p.catalog, p.guideColor, p.fontScale⟩

def encode (p : Press) (bindings : Value) (i : Item) : Journaled (List Command) :=
  i.encode (p.setting bindings)

def typed? (p : Press) (bindings : Value) : Option (Target × Entries) := do
  let (target, bindings) ← (p.setting bindings).typed?
  let labelHome ← p.labelHome.bool?
  match p.copies with
  | .number (.int n) =>
    let ⟨copies, copies_pos⟩ ← positive? n
    return ({ target with labelHome, copies, copies_pos }, bindings)
  | _ => none

def print (p : Press) (bindings : Value) (d : Draft) : Journaled Print := do
  match p.typed? bindings, d.design? with
  | some (target, bindings), some design =>
    let label ← target.compile bindings design
    return ⟨d.page, label.commands.map Command.text, label.elementCount, label.skippedCount,
      p.copies⟩
  | _, _ =>
    let opening ← Frame.opening d.page p.labelHome.isTrue
    let parts ← Journaled.forEach (p.encode bindings) d.items
    let closing ← closing p.copies
    return ⟨d.page, (opening ++ parts.flatten).map Command.text ++ closing, d.items.length,
      Label.emptyCount parts, p.copies⟩

def eachOf : Value → Except Fault (List Value)
  | .list items => .ok items
  | .text s => .ok (s.map fun c => .text [c])
  | .mapping entries => .ok (entries.map fun e => .scalar e.1)
  | v => .error (.notIterable v.qualifiedTypeName)

def printAll (p : Press) (sets : Value) (draft : Journaled Draft) : Journaled Text := do
  let prints ← Journaled.forEach (fun set => do p.print set (← draft)) (← eachOf sets)
  return Command.joined (prints.map Print.text)

end Press
end LabelPress.Handmade
