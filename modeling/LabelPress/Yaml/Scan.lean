import LabelPress.Yaml.BlockScalar
import LabelPress.Yaml.PlainScalar
import LabelPress.Yaml.Property
import LabelPress.Yaml.QuotedScalar

/-!
# Finding the tokens

A text is read from left to right. Whatever may turn out to be a key is remembered, by nesting in
brackets, until its colon comes or until it no longer can be one: when its line ends or after 1024
characters. In front of a key whose colon comes, the tokens for a key, and for a new block if it is
indented further, are put in where it started.
-/

namespace LabelPress.Yaml

structure PossibleKey where
  /-- The nesting in brackets. -/
  level : Int
  /-- The number of tokens before it. -/
  token : Nat
  /-- Whether nothing else can stand there. -/
  required : Bool
  start : Cursor

structure Scan where
  cursor : Cursor
  tokens : Array Token := #[]
  /-- The number of brackets that are open; below zero where more were closed than opened. -/
  level : Int := 0
  /-- The columns of the open blocks, the innermost first. -/
  indents : List Nat := []
  /-- Whether a key may start here. -/
  keyAllowed : Bool := true
  keys : List PossibleKey := []

namespace Scan

/-- The column of the innermost open block, or one less than any column. -/
def indent (s : Scan) : Int := (s.indents.head?.map Int.ofNat).getD (-1)

def inFlow (s : Scan) : Bool := s.level ≠ 0

def emit (s : Scan) (t : Token) (c : Cursor) : Scan :=
  { s with tokens := s.tokens.push t, cursor := c }

def keyLimit : Nat := 1024

def isStale (s : Scan) (k : PossibleKey) : Bool :=
  k.start.line ≠ s.cursor.line || keyLimit < s.cursor.index - k.start.index

def dropStale (s : Scan) : Except Stop Scan :=
  if s.keys.any fun k => s.isStale k && k.required then .error .malformed
  else .ok { s with keys := s.keys.filter fun k => !s.isStale k }

/-- The tokens before a fault in what comes next. As no token is told while something that a colon
may turn into a key stands before it, the fault comes in front of the first such place. -/
def stop (s : Scan) (fault : Stop) : Array Token :=
  let live := s.keys.filter fun k => !s.isStale k
  let place := live.foldl (fun n k => min n k.token) s.tokens.size
  (s.tokens.take place).push (.fault fault)

def dropKey (s : Scan) : Except Stop Scan :=
  if s.keys.any fun k => k.level == s.level && k.required then .error .malformed
  else .ok { s with keys := s.keys.filter fun k => k.level != s.level }

def saveKey (s : Scan) : Except Stop Scan := do
  if !s.keyAllowed then return s
  let required := !s.inFlow && s.indent == (s.cursor.column : Int)
  let s ← s.dropKey
  return { s with keys := ⟨s.level, s.tokens.size, required, s.cursor⟩ :: s.keys }

def unwind (s : Scan) (column : Int) : Scan :=
  if s.inFlow then s
  else
    let closed := (s.indents.takeWhile fun (i : Nat) => column < i).length
    { s with
      indents := s.indents.drop closed
      tokens := s.tokens ++ Array.replicate closed Token.blockEnd }

/-- With a block opened at `column` by the token `t` put in at `place`, if it is indented further
than the innermost one. -/
def openBlock (s : Scan) (column place : Nat) (t : Token) : Scan :=
  if s.indent < (column : Int) then
    { s with indents := column :: s.indents, tokens := s.tokens.insertIdxIfInBounds place t }
  else s

def skipToToken : Nat → Scan → Scan
  | 0, s => s
  | fuel + 1, s =>
    let c := s.cursor.skipSpaces.skipComment
    if isBreak c.peek then
      skipToToken fuel
        { s with cursor := c.lineBreak.2, keyAllowed := s.keyAllowed || !s.inFlow }
    else { s with cursor := c }

/-- After everything that a mark of the document level ends: blocks and keys. -/
def toDocumentLevel (s : Scan) : Except Stop Scan := do
  let s ← (s.unwind (-1)).dropKey
  return { s with keyAllowed := false }

def scanDirective (s : Scan) : Except Stop Scan := do
  let s ← s.toDocumentLevel
  let (token, c) ← directive s.cursor
  return s.emit token c

def scanDocumentMark (s : Scan) (t : Token) : Except Stop Scan := do
  let s ← s.toDocumentLevel
  return s.emit t (s.cursor.advance 3)

def scanOpening (s : Scan) (t : Token) : Except Stop Scan := do
  let s ← s.saveKey
  return { s.emit t s.cursor.next with level := s.level + 1, keyAllowed := true }

def scanClosing (s : Scan) (t : Token) : Except Stop Scan := do
  let s ← s.dropKey
  return { s.emit t s.cursor.next with level := s.level - 1, keyAllowed := false }

def scanFlowEntry (s : Scan) : Except Stop Scan := do
  let s ← s.dropKey
  return { s.emit .flowEntry s.cursor.next with keyAllowed := true }

/-- Inside brackets as it is; elsewhere with the block opened that the indicator `t` belongs to, for
which a key must be allowed here. -/
def enterBlock (s : Scan) (block : Token) : Except Stop Scan :=
  if s.inFlow then .ok s
  else if !s.keyAllowed then .error .malformed
  else .ok (s.openBlock s.cursor.column s.tokens.size block)

def scanBlockEntry (s : Scan) : Except Stop Scan := do
  let s ← s.enterBlock .blockSequence
  let s ← s.dropKey
  return { s.emit .blockEntry s.cursor.next with keyAllowed := true }

def scanKey (s : Scan) : Except Stop Scan := do
  let s ← s.enterBlock .blockMapping
  let s ← s.dropKey
  return { s.emit .key s.cursor.next with keyAllowed := !s.inFlow }

def scanValue (s : Scan) : Except Stop Scan := do
  match s.keys.find? fun k => k.level == s.level with
  | some k =>
    let s := { s with
      keys := s.keys.filter fun k => k.level != s.level
      tokens := s.tokens.insertIdxIfInBounds k.token .key
      keyAllowed := false }
    let s := if s.inFlow then s else s.openBlock k.start.column k.token .blockMapping
    return s.emit .value s.cursor.next
  | none =>
    let s ← s.enterBlock .blockMapping
    let s ← s.dropKey
    return { s.emit .value s.cursor.next with keyAllowed := !s.inFlow }

/-- After something that may be a key and after which no key may start. -/
def scanContent (s : Scan) (read : Cursor → Except Stop (Token × Cursor)) :
    Except Stop Scan := do
  let s ← s.saveKey
  let (token, c) ← read s.cursor
  return { s.emit token c with keyAllowed := false }

def scanBlockScalar (s : Scan) (folded : Bool) : Except Stop Scan := do
  let s ← s.dropKey
  let (text, c) ← blockScalar folded s.indent s.cursor
  return { s.emit (.scalar (.ofChars text) false) c with keyAllowed := true }

/-- After a plain scalar; where a line ended last, a key may start again. -/
def scanPlain (s : Scan) : Except Stop Scan := do
  let s ← s.saveKey
  let (text, ends, c) := plainScalar s.inFlow (s.indent + 1).toNat s.cursor
  return { s.emit (.scalar (.ofChars text) true) c with keyAllowed := ends }

def indicators : List Char := "-?:,[]\x7b\x7d#&*!|>'\"%@\x60".toList

def startsPlain (inFlow : Bool) (c : Cursor) : Bool :=
  let ch := c.peek
  !(isBlankOrEnd ch || indicators.contains ch) ||
    (!isBlankOrEnd (c.peekAt 1) && (ch == '-' || (!inFlow && (ch == '?' || ch == ':'))))

def scanToken (s : Scan) : Except Stop Scan :=
  let c := s.cursor
  let ch := c.peek
  let alone := isBlankOrEnd (c.peekAt 1)
  if ch == '%' && c.column == 0 then s.scanDirective
  else if c.column == 0 && c.seesMark '-' then s.scanDocumentMark .documentStart
  else if c.column == 0 && c.seesMark '.' then s.scanDocumentMark .documentEnd
  else if ch == '[' then s.scanOpening .flowSequence
  else if ch == '\x7b' then s.scanOpening .flowMapping
  else if ch == ']' then s.scanClosing .flowSequenceEnd
  else if ch == '\x7d' then s.scanClosing .flowMappingEnd
  else if ch == ',' then s.scanFlowEntry
  else if ch == '-' && alone then s.scanBlockEntry
  else if ch == '?' && (s.inFlow || alone) then s.scanKey
  else if ch == ':' && (s.inFlow || alone) then s.scanValue
  else if ch == '*' then s.scanContent fun c => do
    let (name, c) ← anchorName c.next
    return (.alias name, c)
  else if ch == '&' then s.scanContent fun c => do
    let (name, c) ← anchorName c.next
    return (.anchor name, c)
  else if ch == '!' then s.scanContent fun c => do
    let (name, c) ← tagName c
    return (.tag name, c)
  else if ch == '|' && !s.inFlow then s.scanBlockScalar false
  else if ch == '>' && !s.inFlow then s.scanBlockScalar true
  else if ch == '\'' || ch == '"' then s.scanContent fun c => do
    let (text, c) ← quotedScalar (ch == '"') c
    return (.scalar text false, c)
  else if startsPlain s.inFlow c then s.scanPlain
  else .error .malformed

def step (s : Scan) : Except Stop (Scan × Bool) := do
  let s ← (s.skipToToken s.cursor.fuel).dropStale
  let s := s.unwind s.cursor.column
  if s.cursor.peek == endMark then return (← s.toDocumentLevel, false)
  return (← s.scanToken, true)

/-- The tokens up to the end of the text, or up to what cannot be read. -/
def scanAll : Nat → Scan → Array Token
  | 0, s => s.stop .malformed
  | fuel + 1, s => match s.step with
    | .error fault => s.stop fault
    | .ok (s, true) => scanAll fuel s
    | .ok (s, false) => s.tokens

theorem scanAll_succ (fuel : Nat) (s : Scan) : scanAll (fuel + 1) s = match s.step with
    | .error fault => s.stop fault
    | .ok (s, true) => scanAll fuel s
    | .ok (s, false) => s.tokens := by
  rfl

end Scan

def tokensOf (text : Text) : List Token :=
  match (Text.chars? text).filter (·.all isAllowed) with
  | some cs =>
    let start := Cursor.start cs
    let start := if start.peek == byteOrderMark then start.next else start
    (Scan.scanAll (start.fuel + 1) { cursor := start }).toList
  | none => [.fault .malformed]

end LabelPress.Yaml
