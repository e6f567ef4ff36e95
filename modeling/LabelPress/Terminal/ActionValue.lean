import LabelPress.Terminal.ActionToken

/-!
# Values of actions

Of a value among the arguments of an action it is kept what a fault calls it and what comes of it.
Only literal values can be told: numbers, texts, words that are values, and what is put together of
them. Members of a set and keys of a mapping are of other types than these two.
-/

namespace LabelPress.Terminal

inductive Literal where
  | number (imaginary : Bool)
  /-- A number with a sign before it. -/
  | signed (imaginary : Bool)
  /-- Any other literal value, with the type that keeps it from being a key. -/
  | other (barring : Option String)
  deriving DecidableEq

/-- What comes of a value. -/
abbrev Worth := Except ActionFault Literal

namespace Literal

def barring? : Literal → Option String
  | other barring => barring
  | _ => none

def asKey (l : Literal) : Except ActionFault Unit :=
  match l.barring? with
  | some typeName => .error (.unhashable typeName)
  | none => .ok ()

end Literal

namespace Worth

def computed : Worth := .error .computed

def plain : Worth := .ok (.other none)

def signed : Worth → Worth
  | .ok (.number imaginary) => .ok (.signed imaginary)
  | _ => computed

/-- What comes of a sum or difference: a real number and an imaginary one make a literal. -/
def sum (left right : Worth) : Worth :=
  match left, right with
  | .ok (.number false), .ok (.number true) | .ok (.signed false), .ok (.number true) => plain
  | _, _ => computed

def row (items : List Worth) : Worth := do
  return .other ((← items.mapM id).findSome? Literal.barring?)

def set (members : List Worth) : Worth := do
  members.forM fun w => do Literal.asKey (← w)
  return .other (some "set")

def entry (key value : Worth) : Worth := do
  let key ← key
  let value ← value
  key.asKey
  return value

def mapping (entries : List Worth) : Worth := do
  entries.forM fun w => discard w
  return .other (some "dict")

end Worth

structure ActionValue where
  /-- The tokens behind it. -/
  rest : List ActionToken
  /-- What a fault calls it. -/
  kind : String
  worth : Worth := .computed
  /-- Whether nothing is compared, joined or chosen in it but between brackets. -/
  operand : Bool := true
  /-- Whether it starts with a row of values or with a word that is a value. -/
  fixed : Bool := false

end LabelPress.Terminal
