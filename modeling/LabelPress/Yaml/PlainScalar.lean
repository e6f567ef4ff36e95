import LabelPress.Yaml.Cursor

/-!
# Plain scalars

A plain scalar has no quotes. It ends before a comment, before a colon that ends a key, and inside
brackets before the characters that separate items. It may go on over lines that are indented far
enough; a line end counts as a space, and further ones as line feeds.
-/

namespace LabelPress.Yaml

def isFlowIndicator (c : Char) : Bool :=
  c == ',' || c == '[' || c == ']' || c == '\x7b' || c == '\x7d'

/-- Whether a run of a plain scalar ends before `c`, which `after` follows. -/
def endsPlain (inFlow : Bool) (c after : Char) : Bool :=
  isBlankOrEnd c || (c == ':' && (isBlankOrEnd after || (inFlow && isFlowIndicator after))) ||
    (inFlow && (c == '?' || isFlowIndicator c))

def plainRun (inFlow : Bool) : List Char → List Char
  | [] => []
  | c :: rest =>
    if endsPlain inFlow c (rest.headD endMark) then [] else c :: plainRun inFlow rest

structure PlainGap where
  /-- What the gap counts for; nothing if the scalar ends here. -/
  text : List Char
  /-- Whether a line ends in the gap. -/
  ends : Bool
  after : Cursor

def plainBreaks : Nat → Cursor → Option (List Char × Cursor)
  | 0, c => some ([], c)
  | fuel + 1, c =>
    if c.peek == ' ' then plainBreaks fuel c.next
    else if isBreak c.peek then
      let (ended, c) := c.lineBreak
      if c.seesDocumentMark then none
      else (plainBreaks fuel c).map fun (more, c) => (ended ++ more, c)
    else some ([], c)

def plainGap (c : Cursor) : PlainGap :=
  let (spaces, c) := c.span (· == ' ')
  if isBreak c.peek then
    let (ended, c) := c.lineBreak
    if c.seesDocumentMark then ⟨[], true, c⟩
    else match plainBreaks c.fuel c with
      | none => ⟨[], true, c⟩
      | some (breaks, c) =>
        let lead := if ended ≠ ['\n'] then ended else if breaks.isEmpty then [' '] else []
        ⟨lead ++ breaks, true, c⟩
  else ⟨spaces, false, c⟩

/-- A plain scalar that goes on at `c` after `gap`, which counts only if a run follows: its text,
whether a line ended last, and the place after it. -/
def plainFrom (inFlow : Bool) (indent : Nat) :
    Nat → List Char → Bool → Cursor → List Char × Bool × Cursor
  | 0, _, ends, c => ([], ends, c)
  | fuel + 1, gap, ends, c =>
    let run := plainRun inFlow c.rest
    if run.isEmpty then ([], ends, c)
    else
      let found := plainGap (c.advance run.length)
      let c := found.after
      if found.text.isEmpty || c.peek == '#' || (!inFlow && c.column < indent) then
        (gap ++ run, found.ends, c)
      else
        let (more, ends, c) := plainFrom inFlow indent fuel found.text found.ends c
        (gap ++ run ++ more, ends, c)

def plainScalar (inFlow : Bool) (indent : Nat) (c : Cursor) : List Char × Bool × Cursor :=
  plainFrom inFlow indent c.fuel [] false c

end LabelPress.Yaml
