import LabelPress.Geometry
import LabelPress.Orientation

/-!
# Values as operands

Labels that are put together by hand may hold values of any types. A truth value counts as zero or
one in a computation, texts and lists can be joined and repeated, and everything else that is no
number is a fault that names the types.
-/

namespace LabelPress.Value

def operand? : Value → Option Number
  | scalar s => s.toNumber?
  | _ => none

def whole? (v : Value) : Option Int :=
  match v.operand? with
  | some (.int n) => some n
  | _ => none

def operandFault (operation : Text) (a b : Value) : Fault :=
  .operands operation a.qualifiedTypeName b.qualifiedTypeName

def sumFault (a b : Value) : Fault :=
  match a with
  | text _ | list _ => .joined a.qualifiedTypeName b.qualifiedTypeName
  | a => operandFault "+" a b

def add (a b : Value) : Except Fault Value := do
  match a.operand?, b.operand? with
  | some x, some y => return .number (← x.add y)
  | _, _ => match a, b with
    | text s, text t => return text (s ++ t)
    | list s, list t => return list (s ++ t)
    | a, b => throw (sumFault a b)

/-- A text or list, so many times in a row; none for every other value. -/
def repeated? (n : Nat) : Value → Option Value
  | text s => some (text (List.replicate n s).flatten)
  | list items => some (list (List.replicate n items).flatten)
  | _ => none

def mul (a b : Value) : Except Fault Value := do
  match a.operand?, b.operand? with
  | some x, some y => return .number (← x.mul y)
  | _, _ =>
    let times (sequence count : Value) : Except Fault Value :=
      match count.whole?.bind fun n => sequence.repeated? n.toNat with
      | some v => .ok v
      | none => .error (.repeated count.qualifiedTypeName)
    match a, b with
    | text _, b | list _, b => times a b
    | a, text _ | a, list _ => times b a
    | a, b => throw (operandFault "*" a b)

def div (a b : Value) : Except Fault Value := do
  match a.operand?, b.operand? with
  | some x, some y => return .number (.real (← x.div y))
  | _, _ => throw (operandFault "/" a b)

def roundHalfUp (v : Value) : Except Fault Int := do
  match v.operand? with
  | some n => n.roundHalfUp
  | none => throw (sumFault v (.number (.real .half)))

def roundDots (v : Value) : Except Fault Nat := do return (← v.roundHalfUp).toNat

def orElse (v default : Value) : Value := if v.isTrue then v else default

def normalizedAngle (v : Value) : Except Fault Number :=
  match v.operand? with
  | some n => .ok n.normalizedAngle
  | none => match v with
    | text _ => .error .unformatted
    | v => .error (operandFault "%" v (.number 360))

def orientation (v : Value) : Except Fault Orientation := do
  match v.operand? with
  | some n => return n.orientation
  | none => return (← v.normalizedAngle).orientation

def textFor (method : Text) : Value → Except Fault Text
  | text s => .ok s
  | v => .error (.noAttribute v.qualifiedTypeName method)

def searched : Value → Except Fault Text
  | text s => .ok s
  | v => .error (.textExpected v.qualifiedTypeName)

def asKey : Value → Except Fault Scalar
  | scalar s => .ok s
  | v => .error (.unhashable v.typeName)

def lessThan (v : Value) (n : Number) : Except Fault Bool :=
  match v.operand? with
  | some m => .ok (m.less n)
  | none => .error (.incomparable "<" v.qualifiedTypeName (Value.number n).typeName)

mutual

/-- Whether two values are equal, for a given equality of numbers. The order of the entries of a
mapping does not matter. -/
def agrees (eq : Number → Number → Bool) (a : Value) : Value → Bool
  | scalar t => match a with
    | scalar s => match s.toNumber?, t.toNumber? with
      | some m, some n => eq m n
      | _, _ => s.same t
    | _ => false
  | list bs => match a with
    | list as => itemsAgree eq as bs
    | _ => false
  | mapping fs => match a with
    | mapping es => es.length == fs.length && entriesAgree eq es fs
    | _ => false
  | _ => false

def itemsAgree (eq : Number → Number → Bool) (as : List Value) : List Value → Bool
  | [] => as.isEmpty
  | b :: bs => match as with
    | a :: as => agrees eq a b && itemsAgree eq as bs
    | [] => false

/-- Whether mapping `es` has all the entries of the other. -/
def entriesAgree (eq : Number → Number → Bool) (es : List (Scalar × Value)) :
    List (Scalar × Value) → Bool
  | [] => true
  | (k, b) :: fs =>
    (match es.find? fun e => e.1.same k with
      | some (_, a) => agrees eq a b
      | none => false) && entriesAgree eq es fs

end

def lengthUnit (v : Value) : Except Fault LengthUnit := do
  LengthUnit.ofName (← v.textFor "strip")

def toDots (length : Value) (unit : LengthUnit) (dpi : Value) : Except Fault Int := do
  match unit with
  | .inch => (← length.mul dpi).roundHalfUp
  | .millimeter =>
    (← (← length.div (.number (.real millimetersPerInch))).mul dpi).roundHalfUp

def fromDots (dots : Value) (unit : LengthUnit) (dpi : Value) : Except Fault Value := do
  let inches ← dots.div dpi
  match unit with
  | .inch => return inches
  | .millimeter => inches.mul (.number (.real millimetersPerInch))

def pageOfSize (width height unit dpi : Value) : Except Fault Page := do
  let ⟨d, _⟩ ← Page.positive "dpi" dpi
  let unit ← unit.lengthUnit
  let dpi : Value := .number (.int d)
  let w ← width.toDots unit dpi
  let h ← height.toDots unit dpi
  Page.ofFields dpi (.number (.int w)) (.number (.int h))

end LabelPress.Value
