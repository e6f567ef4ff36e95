import LabelPress.Text.Blank
import LabelPress.Text.Digit

/-!
# The characters of numerals

Numerals may have white space around them, decimal digits of any script, and single underscores
between digits.
-/

namespace LabelPress.Numeral

/-- Whether a numeral may have `c` around it: white space, but no ASCII separator. -/
def isBlank (c : CodePoint) : Bool :=
  if c.toNat < 0x7F then c == ' ' || (0x9 ≤ c.toNat && c.toNat ≤ 0xD) else Text.isBlank c

/-- A digit of any script as an ASCII digit, and every other character as it is. A half becomes a
question mark, which no numeral has. -/
def plain (c : CodePoint) : Char :=
  match Text.digitValue? c with
  | some n => Char.ofNat ('0'.toNat + n)
  | none => c.char?.getD '?'

def chars (t : Text) : List Char :=
  (Text.dropWhileEnd isBlank (t.dropWhile isBlank)).map plain

def sign : List Char → Bool × List Char
  | '-' :: rest => (true, rest)
  | '+' :: rest => (false, rest)
  | cs => (false, cs)

/-- The characters without their underscores, each of which must stand between two characters that
satisfy `isDigit`; `after` says whether one comes before. -/
def joinDigits (isDigit : Char → Bool) (after : Bool) : List Char → Option (List Char)
  | [] => some []
  | ['_'] => none
  | '_' :: c :: rest =>
    if after && isDigit c then (joinDigits isDigit true rest).map (c :: ·) else none
  | c :: rest => (joinDigits isDigit (isDigit c) rest).map (c :: ·)

/-- The value of digits in a base; none if one is no digit of it. -/
def value? (base : Nat) : Nat → List Char → Option Nat
  | n, [] => some n
  | n, c :: rest => match Text.hexValue? c with
    | some d => if d < base then value? base (n * base + d) rest else none
    | none => none

end LabelPress.Numeral
