import LabelPress.Text.Digit
import LabelPress.Text.Utf8
import LabelPress.Yaml.Token

/-!
# Names, tags and directives

Anchors and aliases have names of letters and digits. A tag names the type of a value, by a handle
and the rest of the name or in full. Directives before a document give the version and the meaning
of handles.
-/

namespace LabelPress.Yaml

def endsName (c : Char) : Bool :=
  isBlankOrEnd c || ['?', ':', ',', ']', '\x7d', '%', '@', '\x60'].contains c

def anchorName (c : Cursor) : Except Stop (String × Cursor) :=
  let (name, c) := c.span isWordChar
  if name.isEmpty || !endsName c.peek then .error .malformed else .ok (String.ofList name, c)

def isTagChar (c : Char) : Bool :=
  c.isAlphanum || "-;/?:@&=+$,_.!~*'()[]".toList.contains c

def escapedBytes : Nat → Cursor → Except Stop (List UInt8 × Cursor)
  | 0, c => .ok ([], c)
  | fuel + 1, c =>
    if c.peek ≠ '%' then .ok ([], c)
    else match Text.hexValue? (c.peekAt 1), Text.hexValue? (c.peekAt 2) with
      | some high, some low => do
        let (more, c) ← escapedBytes fuel (c.advance 3)
        return (UInt8.ofNat (high * 16 + low) :: more, c)
      | _, _ => .error .malformed

def tagChars : Nat → Cursor → Except Stop (List Char × Cursor)
  | 0, c => .ok ([], c)
  | fuel + 1, c =>
    if c.peek == '%' then do
      let (bytes, c) ← escapedBytes c.fuel c
      match Text.Utf8.decode bytes with
      | .error _ => throw .malformed
      | .ok s =>
        let (more, c) ← tagChars fuel c
        return (s.toList ++ more, c)
    else if isTagChar c.peek then do
      let (more, c') ← tagChars fuel c.next
      return (c.peek :: more, c')
    else .ok ([], c)

def tagText (c : Cursor) : Except Stop (String × Cursor) := do
  let (cs, after) ← tagChars c.fuel c
  if after.index = c.index then throw .malformed
  return (String.ofList cs, after)

/-- The handle of a tag: one exclamation mark, or a word between two. -/
def tagHandle (c : Cursor) : Except Stop (String × Cursor) :=
  if c.peek ≠ '!' then .error .malformed
  else if c.peekAt 1 == ' ' then .ok ("!", c.next)
  else
    let (word, after) := c.next.span isWordChar
    if after.peek ≠ '!' then .error .malformed
    else .ok (String.ofList ('!' :: word ++ ['!']), after.next)

/-- Whether the tag at `c` has a handle of its own: another exclamation mark before it ends. -/
def hasHandle (c : Cursor) : Bool :=
  (c.rest.drop 1 |>.takeWhile fun ch => !isSpaceOrEnd ch).contains '!'

def tagName (c : Cursor) : Except Stop (TagName × Cursor) := do
  let (name, c) ←
    if c.peekAt 1 == '<' then do
      let (suffix, c) ← tagText (c.advance 2)
      if c.peek ≠ '>' then throw .malformed
      pure (TagName.mk none suffix, c.next)
    else if isBlankOrEnd (c.peekAt 1) then pure (TagName.mk none "!", c.next)
    else do
      let (handle, c) ← if hasHandle c then tagHandle c else pure ("!", c.next)
      let (suffix, c) ← tagText c
      pure (TagName.mk (some handle) suffix, c)
  if !isSpaceOrEnd c.peek then throw .malformed
  return (name, c)

def number (c : Cursor) : Except Stop (Nat × Cursor) :=
  let (ds, c) := c.span Text.isAsciiDigit
  if ds.isEmpty then .error .malformed
  else .ok (ds.foldl (fun n d => n * 10 + (d.toNat - '0'.toNat)) 0, c)

def directiveValue (name : List Char) (c : Cursor) : Except Stop (Token × Cursor) := do
  if name = "YAML".toList then
    let (major, c) ← number c.skipSpaces
    if c.peek ≠ '.' then throw .malformed
    let (_, c) ← number c.next
    if !isSpaceOrEnd c.peek then throw .malformed
    return (.version major, c)
  if name = "TAG".toList then
    let (handle, c) ← tagHandle c.skipSpaces
    if c.peek ≠ ' ' then throw .malformed
    let (lead, c) ← tagText c.skipSpaces
    if !isSpaceOrEnd c.peek then throw .malformed
    return (.handle handle lead, c)
  return (.directive, c.skip fun ch => !isBreak ch)

def directive (c : Cursor) : Except Stop (Token × Cursor) := do
  let (name, c) := c.next.span isWordChar
  if name.isEmpty || !isSpaceOrEnd c.peek then throw .malformed
  let (token, c) ← directiveValue name c
  return (token, ← c.ignoredLine)

end LabelPress.Yaml
