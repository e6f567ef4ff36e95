import LabelPress.Fault
import LabelPress.Numeral.Integer
import LabelPress.Numeral.Real
import LabelPress.Text.Base64
import LabelPress.Text.Case
import LabelPress.Yaml.Tag

/-!
# Values of scalars

The value that the text of a scalar has by its type. A tag may name a type that the text is not of.
-/

namespace LabelPress.Yaml

def trueWords : List Text := ["yes", "true", "on"]
def falseWords : List Text := ["no", "false", "off"]

def boolOf (text : Text) : Except Fault Bool :=
  let word := Text.lower text
  if trueWords.contains word then .ok true
  else if falseWords.contains word then .ok false
  else .error (.tag (.bool (Text.quoted word)))

def signed (text : Text) : Except Fault (Bool × Text) :=
  match text.filter (· != .char '_') with
  | [] => .error (.tag .empty)
  | c :: rest => .ok (c == '-', if c == '-' || c == '+' then rest else c :: rest)

def shownLimit : Nat := 200

def integerIn (base : Nat) (text : Text) : Except Fault Int := do
  match ← Numeral.integer? base text with
  | some n => return n
  | none => throw (.tag (.integer base ((Text.quoted text).take shownLimit)))

def sexagesimal (digits : List Int) : Int := digits.foldl (fun n d => n * 60 + d) 0

def integerOf (text : Text) : Except Fault Int := do
  let (negative, body) ← signed text
  let n ← match body with
    | [] => throw (.tag .empty)
    | [.char '0'] => pure 0
    | .char '0' :: .char 'b' :: ds => integerIn 2 ds
    | .char '0' :: .char 'x' :: ds => integerIn 16 ds
    | .char '0' :: _ => integerIn 8 body
    | _ =>
      if body.contains (.char ':') then
        sexagesimal <$> (body.splitOn (.char ':')).mapM (integerIn 10)
      else integerIn 10 body
  return if negative then -n else n

def realIn (text : Text) : Except Fault Binary64 :=
  match Binary64.ofNumeral? text with
  | some x => .ok x
  | none => .error (.tag (.real (Text.quoted text)))

/-- The sum of digits in base 60, the last first; `base` is the weight of the first. -/
def sexagesimalReal (sum : Binary64) (base : Int) :
    List Binary64 → Except ArithmeticFault Binary64
  | [] => .ok sum
  | d :: rest => do
    let weight ← (Number.int base).toReal
    sexagesimalReal (sum.add (d.mul weight)) (base * 60) rest

def nanPayload : Nat := 2

def realOf (text : Text) : Except Fault Binary64 := do
  let (negative, body) ← signed (Text.lower text)
  let sign := Binary64.ofInt (if negative then -1 else 1)
  if body = ".inf" then return sign.mul (.infinity false)
  if body = ".nan" then return .nan nanPayload
  if body.contains (.char ':') then
    let digits ← (body.splitOn (.char ':')).mapM realIn
    return sign.mul (← sexagesimalReal (.zero false) 1 digits.reverse)
  return sign.mul (← realIn body)

def microsecondsOf (ds : List Char) : Nat :=
  Timestamp.numeral ((ds ++ List.replicate 6 '0').take 6)

def Timestamp.scalar (stamp : Timestamp) : Except CalendarFault Scalar := do
  match stamp.time with
  | none => return .date (← Date.ofFields stamp.year stamp.month stamp.day)
  | some t =>
    let offset ← match t.offset with
      | none => pure none
      | some minutes => some <$> Offset.ofMicroseconds (minutes * 60000000)
    let date ← Date.ofFields stamp.year stamp.month stamp.day
    let time ← TimeOfDay.ofFields t.hour t.minute t.second (microsecondsOf t.fraction) offset
    return .dateTime ⟨date, time⟩

/-- The date, or date and time, that a text stands for. A line feed at its end is not looked at. -/
def timestampOf (text : Text) : Except Fault Scalar :=
  let body := if text.getLast? = some (.char '\n') then text.dropLast else text
  match (Text.chars? body).bind Timestamp.ofChars? with
  | none => .error (.tag .timestamp)
  | some stamp => stamp.scalar.mapError fun fault => .tag (.calendar fault)

end LabelPress.Yaml
