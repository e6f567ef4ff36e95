import LabelPress.Text.Quoted

/-!
# Field data

The text of a printed field stands between commands, so the characters that start or delimit
commands may not occur in it. Each of them is written as a backslash and the two hexadecimal digits
of its code; a backslash is written so too. The field then says that it uses such escapes.
-/

namespace LabelPress.FieldData

def indicator : Char := '\\'

def reserved : List (Char × Char × Char) :=
  [('\\', '5', 'C'), ('^', '5', 'E'), ('~', '7', 'E'), ('>', '3', 'E'), ('<', '3', 'C'),
    ('&', '2', '6')]

def digits? (c : CodePoint) : Option (Char × Char) :=
  (reserved.find? fun entry => entry.1 == c).map (·.2)

def ofDigits? (high low : CodePoint) : Option Char :=
  (reserved.find? fun entry => entry.2.1 == high && entry.2.2 == low).map (·.1)

def escapePoint (c : CodePoint) : Text :=
  match digits? c with
  | some (high, low) => [indicator, high, low]
  | none => [c]

def escape (t : Text) : Text := t.flatMap escapePoint

/-- The text with the escapes of reserved characters read back; all else stays. -/
def unescape : Text → Text
  | [] => []
  | [c] => [c]
  | [c, d] => [c, d]
  | c :: high :: low :: rest =>
    match if c = indicator then ofDigits? high low else none with
    | some d => d :: unescape rest
    | none => c :: unescape (high :: low :: rest)

/-- The command that prints a text. It announces escapes only if it holds some. -/
def command (t : Text) : Text :=
  let written := escape t
  let announced : Text := if written = t then [] else ['^', 'F', 'H', indicator]
  announced ++ "^FD" ++ written ++ "^FS"

end LabelPress.FieldData
