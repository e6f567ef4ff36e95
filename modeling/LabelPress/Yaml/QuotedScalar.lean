import LabelPress.Text.Digit
import LabelPress.Yaml.Cursor

/-!
# Quoted scalars

Between single quotes a quote is written twice; between double quotes a backslash starts an escape.
In both, a line end counts as a space, and further ones as line feeds.
-/

namespace LabelPress.Yaml

def escapes : List (Char × Char) := [
  ('0', '\x00'), ('a', '\x07'), ('b', '\x08'), ('t', '\t'), ('\t', '\t'), ('n', '\n'),
  ('v', '\x0b'), ('f', '\x0c'), ('r', '\r'), ('e', '\x1b'), (' ', ' '), ('"', '"'), ('\\', '\\'),
  ('/', '/'), ('N', '\x85'), ('_', '\xa0'), ('L', '\u2028'), ('P', '\u2029')]

def codeLength? : Char → Option Nat
  | 'x' => some 2
  | 'u' => some 4
  | 'U' => some 8
  | _ => none

def hexNumber? : Nat → List Char → Option Nat
  | n, [] => some n
  | n, c :: rest => (Text.hexValue? c).bind fun d => hexNumber? (n * 16 + d) rest

/-- The code that the next `length` characters stand for; it must be that of a character. -/
def hexCode (length : Nat) (c : Cursor) : Except Stop Nat :=
  let ds := c.rest.take length
  match if ds.length = length then hexNumber? 0 ds else none with
  | none => .error .malformed
  | some n =>
    if n < 0x110000 then .ok n
    else .error (.content (.tag (if n < 0x80000000 then .codePoint else .codePointSize)))

/-- The line ends and blanks from `c` on. No mark between documents may start a line. -/
def quotedBreaks : Nat → Cursor → Except Stop (List Char × Cursor)
  | 0, c => .ok ([], c)
  | fuel + 1, c =>
    if c.seesDocumentMark then .error .malformed
    else
      let c := c.skip isBlank
      if isBreak c.peek then do
        let (ended, c) := c.lineBreak
        let (more, c) ← quotedBreaks fuel c
        return (ended ++ more, c)
      else .ok ([], c)

def quotedGap (c : Cursor) : Except Stop (List Char × Cursor) := do
  let (blanks, c) := c.span isBlank
  if c.peek == endMark then throw .malformed
  if isBreak c.peek then
    let (ended, c) := c.lineBreak
    let (breaks, c) ← quotedBreaks c.fuel c
    let lead := if ended ≠ ['\n'] then ended else if breaks.isEmpty then [' '] else []
    return (lead ++ breaks, c)
  return (blanks, c)

/-- What an escape stands for; `c` is after the backslash. -/
def escapePoints (c : Cursor) : Except Stop (Text × Cursor) := do
  match escapes.find? fun entry => entry.1 == c.peek with
  | some (_, meaning) => return ([meaning], c.next)
  | none => match codeLength? c.peek with
    | some length =>
      let code ← hexCode length c.next
      return ([.ofNat code], c.next.advance length)
    | none =>
      if !isBreak c.peek then throw .malformed
      let c := c.lineBreak.2
      let (breaks, c) ← quotedBreaks c.fuel c
      return (.ofChars breaks, c)

def quotedFrom (double : Bool) : Nat → Cursor → Except Stop (Text × Cursor)
  | 0, _ => .error .malformed
  | fuel + 1, c => do
    let ch := c.peek
    let (read, c) ←
      if isBlankOrEnd ch then do
        let (kept, c) ← quotedGap c
        pure (Text.ofChars kept, c)
      else if !double && ch == '\'' then
        if c.peekAt 1 == '\'' then pure ([.char '\''], c.advance 2) else return ([], c.next)
      else if double && ch == '"' then return ([], c.next)
      else if double && ch == '\\' then escapePoints c.next
      else pure ([.char ch], c.next)
    let (more, c) ← quotedFrom double fuel c
    return (read ++ more, c)

def quotedScalar (double : Bool) (c : Cursor) : Except Stop (Text × Cursor) :=
  quotedFrom double c.fuel c.next

end LabelPress.Yaml
