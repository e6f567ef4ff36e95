import LabelPress.Fault
import LabelPress.Yaml.ScalarText

/-!
# Writing YAML

A value is written as a block: each entry of a mapping on a line of its own, its parts indented by
two columns, and the items of a list after dashes, no further indented than the key of the list.
-/

namespace LabelPress.Yaml

def indentStep : Nat := 2

def spelling : Binary64.Spelling := ⟨".nan", ".inf", true⟩

/-- The text of a date or of a date with a time, which has its type written before it where it does
not look like one. -/
def momentChars (indent column : Nat) (text : List Char) : List Char :=
  if Tag.ofChars text = .timestamp then plainText (indent + indentStep) column text
  else "!!timestamp ".toList ++ singleText (indent + indentStep) (column + 12) text

/-- The text of a scalar from `column` on, in a mapping or list indented by `indent`. Times and
bytes are not written. -/
def scalarChars (indent column : Nat) : Scalar → Except Fault (List Char)
  | .null => .ok "null".toList
  | .bool b => .ok (if b then "true" else "false").toList
  | .number (.int n) => do return (← integerText n).toList
  | .number (.real x) => .ok (x.text spelling).toList
  | .text s => .ok (scalarText (indent + indentStep) column s)
  | .date d => .ok (momentChars indent column d.isoChars)
  | .dateTime t => .ok (momentChars indent column (t.isoChars ' '))
  | s => do throw (.notInYaml (← s.shown))

mutual

/-- A value after its key or dash, in a mapping or list indented by `indent`; `column` is that after
the key or dash. -/
def afterKey (indent column : Nat) : Value → Except Fault (List Char)
  | .scalar s => do return ' ' :: (← scalarChars indent (column + 1) s) ++ ['\n']
  | .list [] => .ok " []\n".toList
  | .list items => do return '\n' :: (← itemLines indent items)
  | .mapping [] => .ok " \x7b\x7d\n".toList
  | .mapping entries => do return '\n' :: (← entryLines (indent + indentStep) false entries)
  | v => do throw (.notInYaml (← v.shown))

def itemLines (indent : Nat) : List Value → Except Fault (List Char)
  | [] => .ok []
  | item :: rest => do
    let lead := List.replicate indent ' ' ++ ['-']
    let written ← match item with
      | .mapping (entry :: entries) => do
        pure (' ' :: (← entryLines (indent + indentStep) true (entry :: entries)))
      | .list (first :: items) => do
        let lines ← itemLines (indent + indentStep) (first :: items)
        pure (' ' :: lines.drop (indent + indentStep))
      | item => afterKey indent (indent + 1) item
    return lead ++ written ++ (← itemLines indent rest)

/-- The lines of the entries of a mapping; the first may stand behind a dash that indents it. -/
def entryLines (indent : Nat) (behindDash : Bool) :
    List (Scalar × Value) → Except Fault (List Char)
  | [] => .ok []
  | (key, value) :: rest => do
    let key ← scalarChars indent indent key
    let lead := if behindDash then [] else List.replicate indent ' '
    let written ← afterKey indent (indent + key.length + 1) value
    return lead ++ key ++ ':' :: written ++ (← entryLines indent false rest)

end

def render (v : Value) : Except Fault String :=
  match v with
  | .mapping (entry :: entries) => (entryLines 0 false (entry :: entries)).map String.ofList
  | .list (item :: items) => (itemLines 0 (item :: items)).map String.ofList
  | v => (afterKey 0 0 v).map fun cs => String.ofList (cs.drop 1)

end LabelPress.Yaml
