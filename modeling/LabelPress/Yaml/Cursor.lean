import LabelPress.Fault

/-!
# Places in a YAML text

A cursor is what is left of a text, with the place where that starts. The end of the text is looked
at as a NUL, a character that no text may hold.
-/

namespace LabelPress.Yaml

/-- Why the reading of a text comes to no end: the text breaks the rules of the format, or it names
something that does not exist. -/
inductive Stop where
  | malformed
  | content (fault : Fault)
  deriving DecidableEq

def endMark : Char := '\x00'

def isAllowed (c : Char) : Bool :=
  let n := c.toNat
  c == '\t' || c == '\n' || c == '\r' || (0x20 ≤ n && n ≤ 0x7E) || n == 0x85 ||
    (0xA0 ≤ n && n ≤ 0xD7FF) || (0xE000 ≤ n && n ≤ 0xFFFD) || 0x10000 ≤ n

def byteOrderMark : Char := '\ufeff'

def isBreak (c : Char) : Bool :=
  c == '\n' || c == '\r' || c == '\x85' || c == '\u2028' || c == '\u2029'

def endsLine (c : Char) : Bool := isBreak c || c == endMark

def isSpaceOrEnd (c : Char) : Bool := c == ' ' || endsLine c

def isBlankOrEnd (c : Char) : Bool := c == '\t' || isSpaceOrEnd c

def isBlank (c : Char) : Bool := c == ' ' || c == '\t'

def isWordChar (c : Char) : Bool := c.isAlphanum || c == '-' || c == '_'

structure Cursor where
  rest : List Char
  index : Nat
  line : Nat
  column : Nat

namespace Cursor

def start (cs : List Char) : Cursor := ⟨cs, 0, 0, 0⟩

def peekAt (c : Cursor) (n : Nat) : Char := (c.rest.drop n).headD endMark

def peek (c : Cursor) : Char := c.rest.headD endMark

/-- The place after the next character. A carriage return and a line feed end one line. -/
def next (c : Cursor) : Cursor :=
  match c.rest with
  | [] => c
  | ch :: rest =>
    if isBreak ch && !(ch == '\r' && rest.head? == some '\n') then
      ⟨rest, c.index + 1, c.line + 1, 0⟩
    else ⟨rest, c.index + 1, c.line, if ch == byteOrderMark then c.column else c.column + 1⟩

def advance (c : Cursor) : Nat → Cursor
  | 0 => c
  | n + 1 => c.next.advance n

def span (p : Char → Bool) (c : Cursor) : List Char × Cursor :=
  let taken := c.rest.takeWhile p
  (taken, c.advance taken.length)

def skip (p : Char → Bool) (c : Cursor) : Cursor := (c.span p).2

def skipSpaces (c : Cursor) : Cursor := c.skip (· == ' ')

def skipComment (c : Cursor) : Cursor :=
  if c.peek == '#' then c.skip fun ch => !isBreak ch else c

def lineBreak (c : Cursor) : List Char × Cursor :=
  let ch := c.peek
  if ch == '\r' && c.peekAt 1 == '\n' then (['\n'], c.advance 2)
  else if ch == '\n' || ch == '\r' || ch == '\x85' then (['\n'], c.next)
  else if ch == '\u2028' || ch == '\u2029' then ([ch], c.next)
  else ([], c)

def seesMark (c : Cursor) (mark : Char) : Bool :=
  c.rest.take 3 == [mark, mark, mark] && isBlankOrEnd (c.peekAt 3)

def seesDocumentMark (c : Cursor) : Bool := c.seesMark '-' || c.seesMark '.'

def ignoredLine (c : Cursor) : Except Stop Cursor :=
  let c := c.skipSpaces.skipComment
  if endsLine c.peek then .ok c.lineBreak.2 else .error .malformed

def fuel (c : Cursor) : Nat := c.rest.length + 1

end Cursor
end LabelPress.Yaml
