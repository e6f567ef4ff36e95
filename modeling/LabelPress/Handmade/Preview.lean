import LabelPress.Handmade.Operand
import LabelPress.Preview.Request

/-!
# Previews of labels put together by hand

The size of a label, its resolution, its number and the type of the image may be values of any
types. Each is a fault where the request needs it to be something else.
-/

namespace LabelPress.Handmade

/-- What a value is formatted as that is a date or a time, which have formats of their own. -/
def momentText : Text := ".2f"

def inchesText (v : Value) : Except Fault Text := do
  match v.operand? with
  | some n => LabelPress.inchesText n
  | none => match v with
    | .text _ => throw .formatCode
    | .scalar (.date _) | .scalar (.dateTime _) | .scalar (.time _) => return momentText
    | v => throw (.formatText v.typeName)

def dotsPerMillimeter (dpi : Value) : Except Fault Int := do
  match dpi.operand? with
  | some n => LabelPress.dotsPerMillimeter n
  | none => throw (Value.operandFault "/" dpi (.number (.real millimetersPerInch)))

def previewAddress (base width height dpi index : Value) : Except Fault Text := do
  let base ← base.textFor "rstrip"
  let size := (← inchesText width) ++ "x" ++ (← inchesText height)
  return Preview.addressOf base size (← integerText (← dotsPerMillimeter dpi)) (← index.printed)

def isAtMostZero (v : Value) : Except Fault Bool :=
  match v.operand? with
  | some n => .ok (n.atMost 0)
  | none => .error (.incomparable "<=" v.qualifiedTypeName (Value.number 0).typeName)

def previewRequest (base zpl width height dpi index accept : Value) :
    Journaled Preview.Request := do
  let _ ← base.textFor "rstrip"
  if ← isAtMostZero width then Journaled.fail .labelSize
  if ← isAtMostZero height then Journaled.fail .labelSize
  let address ← previewAddress base width height dpi index
  Journaled.note (.request address)
  let zpl ← zpl.textFor "encode"
  match accept with
  | .text accept => Preview.requestAt address zpl accept
  | accept => do
    let _ ← Preview.requestAt address zpl ""
    Journaled.fail (.headerType accept.qualifiedTypeName)

def pagePreviewRequest (base zpl : Value) (page : Page) (index accept : Value) :
    Journaled Preview.Request := do
  let width ← (Number.int page.width).div (.int page.dpi)
  let height ← (Number.int page.height).div (.int page.dpi)
  previewRequest base zpl (.number (.real width)) (.number (.real height)) (.number (.int page.dpi))
    index accept

end LabelPress.Handmade
