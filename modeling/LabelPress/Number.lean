import LabelPress.Binary64.Decimal

/-!
# Numbers

A number is an integer of any size or a binary64 number. Integers stay exact among themselves; an
integer that meets a binary64 number is first rounded to one, which fails beyond their range.
-/

namespace LabelPress

inductive ArithmeticFault where
  | nanToInteger
  | infinityToInteger
  | integerTooLarge
  | quotientTooLarge
  | integerDivisionByZero
  | floatDivisionByZero
  | tooManyDigits
  | tooManyDigitsRead (count : Nat)
  deriving DecidableEq

/-- The most digits that an integer may have where it is turned into text or read from it. -/
def digitLimit : Nat := 4300

namespace ArithmeticFault

def message : ArithmeticFault → String
  | nanToInteger => "cannot convert float NaN to integer"
  | infinityToInteger => "cannot convert float infinity to integer"
  | integerTooLarge => "int too large to convert to float"
  | quotientTooLarge => "integer division result too large for a float"
  | integerDivisionByZero => "division by zero"
  | floatDivisionByZero => "float division by zero"
  | tooManyDigits => "Exceeds the limit (" ++ toString digitLimit ++
      " digits) for integer string conversion; " ++
      "use sys.set_int_max_str_digits() to increase the limit"
  | tooManyDigitsRead count => "Exceeds the limit (" ++ toString digitLimit ++
      " digits) for integer string conversion: value has " ++ toString count ++
      " digits; use sys.set_int_max_str_digits() to increase the limit"

end ArithmeticFault

def hasIntegerText (n : Int) : Bool := n.natAbs < Nat.pow 10 digitLimit

def integerText (n : Int) : Except ArithmeticFault String :=
  if hasIntegerText n then .ok (toString n) else .error .tooManyDigits

def positive? (n : Int) : Option { k : Nat // 0 < k } :=
  if h : 0 < n then some ⟨n.toNat, by omega⟩ else none

inductive Number where
  | int (n : Int)
  | real (x : Binary64)
  deriving DecidableEq

namespace Number

instance : OfNat Number n := ⟨.int n⟩

/-- The binary64 number nearest to a number; integers must not round to an infinity. -/
def toReal : Number → Except ArithmeticFault Binary64
  | .real x => .ok x
  | .int n => match Binary64.ofInt n with
    | .infinity _ => .error .integerTooLarge
    | x => .ok x

def isZero : Number → Bool
  | .int n => n == 0
  | .real x => x.isZero

def orElse (x default : Number) : Number := if x.isZero then default else x

def add : Number → Number → Except ArithmeticFault Number
  | .int a, .int b => .ok (.int (a + b))
  | a, b => do return .real ((← a.toReal).add (← b.toReal))

def mul : Number → Number → Except ArithmeticFault Number
  | .int a, .int b => .ok (.int (a * b))
  | a, b => do return .real ((← a.toReal).mul (← b.toReal))

/-- The quotient as a binary64 number. That of two integers is rounded once, from its exact value.
-/
def div : Number → Number → Except ArithmeticFault Binary64
  | .int a, .int b =>
    if b = 0 then .error .integerDivisionByZero
    else match Binary64.round (decide (a < 0) != decide (b < 0)) (a / b : Rat) with
      | .infinity _ => .error .quotientTooLarge
      | x => .ok x
  | a, b => do
    let x ← a.toReal
    let y ← b.toReal
    if y.isZero then throw .floatDivisionByZero
    return x.div y

def rank : Number → Option (Int × Rat)
  | .int n => some (0, n)
  | .real x => x.rank

def less (a b : Number) : Bool :=
  match a.rank, b.rank with
  | some (i, p), some (j, q) => i < j || (i == j && p < q)
  | _, _ => false

def same (a b : Number) : Bool :=
  match a.rank, b.rank with
  | some p, some q => p == q
  | _, _ => false

/-- Whether `a` and `b` stand for the same value, or are one constant that stands for none. -/
def alike (a b : Number) : Bool :=
  match a, b with
  | .real (.nan p), .real (.nan q) => p == q && p != 0
  | a, b => a.same b

def atMost (a b : Number) : Bool := a.less b || a.same b

def text : Number → Except ArithmeticFault String
  | .int n => integerText n
  | .real x => .ok (x.text .plain)

end Number

namespace Binary64

def half : Binary64 := ofRat (1 / 2)

def toInteger (pick : Rat → Int) : Binary64 → Except ArithmeticFault Int
  | .nan _ => .error .nanToInteger
  | .infinity _ => .error .infinityToInteger
  | x => .ok (pick x.toRat)

end Binary64

namespace Number

/-- The nearest integer, halves going up: the floor of the binary64 sum with one half. -/
def roundHalfUp (x : Number) : Except ArithmeticFault Int := do
  ((← x.toReal).add Binary64.half).toInteger Rat.floor

def roundDots (x : Number) : Except ArithmeticFault Nat := do
  return (← x.roundHalfUp).toNat

end Number
end LabelPress
