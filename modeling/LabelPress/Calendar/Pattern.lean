import LabelPress.Calendar.Iso
import LabelPress.Text.Encoding

/-!
# Date patterns

A pattern such as `DD/MM/YY` names the parts of a date by letters. It is first turned into
directives, a percent sign and a letter each, in which a plain percent sign is written twice; the
directives are then replaced by the parts of a moment.
-/

namespace LabelPress

inductive Part where
  | year
  | shortYear
  | month
  | day
  | hour
  | minute
  | second
  deriving DecidableEq

namespace Part

def letter : Part → Char
  | year => 'Y'
  | shortYear => 'y'
  | month => 'm'
  | day => 'd'
  | hour => 'H'
  | minute => 'M'
  | second => 'S'

def ofLetter? : Char → Option Part
  | 'Y' => some year
  | 'y' => some shortYear
  | 'm' => some month
  | 'd' => some day
  | 'H' => some hour
  | 'M' => some minute
  | 'S' => some second
  | _ => none

/-- The text of a part; all but the year have two digits. -/
def chars (t : DateTime) : Part → List Char
  | year => Nat.toDigits 10 t.date.year
  | shortYear => paddedDigits 2 (t.date.year % 100)
  | month => paddedDigits 2 t.date.month
  | day => paddedDigits 2 t.date.day
  | hour => paddedDigits 2 t.time.hour
  | minute => paddedDigits 2 t.time.minute
  | second => paddedDigits 2 t.time.second

end Part

namespace Pattern

def doublePercents (pattern : Text) : Text :=
  pattern.flatMap (fun c : CodePoint => if c == '%' then [c, c] else [c])

def replaceLetters : Text → Text
  | .char 'Y' :: .char 'Y' :: .char 'Y' :: .char 'Y' :: rest =>
    '%' :: Part.year.letter :: replaceLetters rest
  | .char 'Y' :: .char 'Y' :: rest => '%' :: Part.shortYear.letter :: replaceLetters rest
  | .char 'M' :: .char 'M' :: rest => '%' :: Part.month.letter :: replaceLetters rest
  | .char 'D' :: .char 'D' :: rest => '%' :: Part.day.letter :: replaceLetters rest
  | .char 'H' :: .char 'H' :: rest => '%' :: Part.hour.letter :: replaceLetters rest
  | .char 'm' :: .char 'm' :: rest => '%' :: Part.minute.letter :: replaceLetters rest
  | .char 's' :: .char 's' :: rest => '%' :: Part.second.letter :: replaceLetters rest
  | c :: rest => c :: replaceLetters rest
  | [] => []

def directives (pattern : Text) : Text := replaceLetters (doublePercents pattern)

/-- The text that directives make of a moment. It ends at a character that marks an end. -/
def expand (t : DateTime) : Text → Text
  | [] => []
  | .char '%' :: .char '%' :: rest => '%' :: expand t rest
  | .char '%' :: .char c :: rest => match Part.ofLetter? c with
    | some p => Text.ofChars (p.chars t) ++ expand t rest
    | none => '%' :: c :: expand t rest
  | c :: rest => if c == Iso.endMark then [] else c :: expand t rest

/-- The text that a pattern makes of a moment. Its directives must be a text of UTF-8. -/
def format (pattern : Text) (t : DateTime) : Except Text.EncodingFault Text := do
  Text.Encoding.utf8.check (directives pattern)
  return expand t (directives pattern)

end Pattern
end LabelPress
