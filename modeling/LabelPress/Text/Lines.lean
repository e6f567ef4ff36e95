import LabelPress.Text.Basic

/-!
# Lines

A file may end its lines with a line feed, a carriage return or both; in memory a line feed ends
every line.
-/

namespace LabelPress.Text

def normalizeLineEnds : List Char → List Char
  | [] => []
  | '\r' :: '\n' :: rest => '\n' :: normalizeLineEnds rest
  | c :: rest => (if c == '\r' then '\n' else c) :: normalizeLineEnds rest

def splitLines (t : Text) : List Text := t.splitOn '\n'

end LabelPress.Text
