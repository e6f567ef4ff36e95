import LabelPress.Text.Digit
import LabelPress.Yaml.Cursor

/-!
# Block scalars

A block scalar holds the indented lines that follow its header, as they are or with lines joined by
spaces. The header may give the indentation, and says what becomes of the line ends after the text.
-/

namespace LabelPress.Yaml

inductive Chomping where
  | strip
  | clip
  | keep
  deriving DecidableEq

structure BlockHeader where
  chomping : Chomping := .clip
  increment : Option Nat := none

namespace BlockHeader

def chomping? (c : Cursor) : Option Chomping :=
  if c.peek == '+' then some .keep else if c.peek == '-' then some .strip else none

def increment? (c : Cursor) : Except Stop (Option Nat) :=
  if c.peek == '0' then .error .malformed
  else if Text.isAsciiDigit c.peek then .ok (some (c.peek.toNat - '0'.toNat))
  else .ok none

def parts (c : Cursor) : Except Stop (BlockHeader × Cursor) := do
  match chomping? c with
  | some chomping => match ← increment? c.next with
    | some n => return (⟨chomping, some n⟩, c.advance 2)
    | none => return (⟨chomping, none⟩, c.next)
  | none => match ← increment? c with
    | some n => match chomping? c.next with
      | some chomping => return (⟨chomping, some n⟩, c.advance 2)
      | none => return (⟨.clip, some n⟩, c.next)
    | none => return ({}, c)

def read (c : Cursor) : Except Stop (BlockHeader × Cursor) := do
  let (header, c) ← parts c
  if !isSpaceOrEnd c.peek then throw .malformed
  return (header, ← c.ignoredLine)

end BlockHeader

def blockIndentation : Nat → Nat → Cursor → List Char × Nat × Cursor
  | 0, widest, c => ([], widest, c)
  | fuel + 1, widest, c =>
    if c.peek == ' ' then blockIndentation fuel (max widest c.next.column) c.next
    else if isBreak c.peek then
      let (ended, c) := c.lineBreak
      let (more, widest, c) := blockIndentation fuel widest c
      (ended ++ more, widest, c)
    else ([], widest, c)

def skipIndent (indent : Nat) (c : Cursor) : Cursor :=
  c.advance ((c.rest.take (indent - c.column)).takeWhile (· == ' ')).length

def blockBreaks (indent : Nat) : Nat → Cursor → List Char × Cursor
  | 0, c => ([], c)
  | fuel + 1, c =>
    let c := skipIndent indent c
    if isBreak c.peek then
      let (ended, c) := c.lineBreak
      let (more, c) := blockBreaks indent fuel c
      (ended ++ more, c)
    else ([], c)

/-- The text of a block scalar from `c` on, after the line ends `breaks`; then the end of its last
line and those of the empty lines after it. -/
def blockLines (folded : Bool) (indent : Nat) :
    Nat → List Char → List Char → Cursor → List Char × List Char × List Char × Cursor
  | 0, ended, breaks, c => ([], ended, breaks, c)
  | fuel + 1, ended, breaks, c =>
    if c.column ≠ indent || c.peek == endMark then ([], ended, breaks, c)
    else
      let startsBlank := isBlank c.peek
      let (line, c) := c.span fun ch => !isBreak ch
      let (ended, c) := c.lineBreak
      let (after, c) := blockBreaks indent c.fuel c
      if c.column ≠ indent || c.peek == endMark then (breaks ++ line, ended, after, c)
      else
        let joint :=
          if folded && ended == ['\n'] && !startsBlank && !isBlank c.peek then
            if after.isEmpty then [' '] else []
          else ended
        let (more, ended, last, c) := blockLines folded indent fuel ended after c
        (breaks ++ line ++ joint ++ more, ended, last, c)

def blockScalar (folded : Bool) (indent : Int) (c : Cursor) :
    Except Stop (List Char × Cursor) := do
  let (header, c) ← BlockHeader.read c.next
  let least := max 1 (indent + 1).toNat
  let (breaks, column, c) := match header.increment with
    | none =>
      let (breaks, widest, c) := blockIndentation c.fuel 0 c
      (breaks, max least widest, c)
    | some n =>
      let column := least + n - 1
      let (breaks, c) := blockBreaks column c.fuel c
      (breaks, column, c)
  let (text, ended, after, c) := blockLines folded column c.fuel [] breaks c
  let tail := match header.chomping with
    | .strip => []
    | .clip => ended
    | .keep => ended ++ after
  return (text ++ tail, c)

end LabelPress.Yaml
