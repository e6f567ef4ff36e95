import LabelPress.Number
import LabelPress.Numeral.Digits

/-!
# Numerals of integers
-/

namespace LabelPress.Numeral

def isDigitOf (base : Nat) (c : Char) : Bool :=
  match Text.hexValue? c with
  | some d => d < base
  | none => false

def baseLetters : Nat → List Char
  | 2 => ['b', 'B']
  | 8 => ['o', 'O']
  | 16 => ['x', 'X']
  | _ => []

def dropBase (base : Nat) : List Char → List Char
  | '0' :: c :: rest =>
    if (baseLetters base).contains c then
      match rest with
      | '_' :: rest => rest
      | rest => rest
    else '0' :: c :: rest
  | cs => cs

def digitCount (base : Nat) (cs : List Char) : Nat :=
  (cs.takeWhile fun c => isDigitOf base c || c == '_').countP (isDigitOf base)

/-- The integer of a numeral in a base; none if there is no numeral. In base ten it may have no more
than `digitLimit` digits. -/
def integer? (base : Nat) (t : Text) : Except ArithmeticFault (Option Int) :=
  let (negative, body) := sign (chars t)
  let body := dropBase base body
  let count := digitCount base body
  if base = 10 ∧ digitLimit < count then .error (.tooManyDigitsRead count)
  else if body.isEmpty then .ok none
  else
    let found := (joinDigits (isDigitOf base) false body).bind (value? base 0)
    .ok (found.map fun (n : Nat) => if negative then -(n : Int) else n)

end LabelPress.Numeral
