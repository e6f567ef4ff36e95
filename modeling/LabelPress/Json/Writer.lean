import LabelPress.Fault

/-!
# Writing JSON

Values as JSON texts of ASCII characters: on one line, or with an item on every line.
-/

namespace LabelPress.Json

def codeEscape (n : Nat) : List Char := '\\' :: 'u' :: Text.hexDigits 4 n

def writePoint (c : CodePoint) : List Char :=
  let n := c.toNat
  if c == '"' then ['\\', '"']
  else if c == '\\' then ['\\', '\\']
  else if c == '\n' then ['\\', 'n']
  else if c == '\r' then ['\\', 'r']
  else if c == '\t' then ['\\', 't']
  else if c == '\x08' then ['\\', 'b']
  else if c == '\x0c' then ['\\', 'f']
  else if 0x20 ≤ n && n < 0x7f then [Char.ofNat n]
  else if n < 0x10000 then codeEscape n
  else codeEscape (0xD800 + (n - 0x10000) / 0x400) ++ codeEscape (0xDC00 + (n - 0x10000) % 0x400)

def writeText (t : Text) : List Char := '"' :: t.flatMap writePoint ++ ['"']

def spelling : Binary64.Spelling := ⟨"NaN", "Infinity", false⟩

/-- A scalar. Dates, times and bytes have no form in JSON. -/
def writeScalar : Scalar → Except Fault (List Char)
  | .null => .ok "null".toList
  | .bool b => .ok (if b then "true".toList else "false".toList)
  | .number (.int n) => do return (← integerText n).toList
  | .number (.real x) => .ok (x.text spelling).toList
  | .text s => .ok (writeText s)
  | s => .error (.notInJson s.typeName)

def writeKey : Scalar → Except Fault (List Char)
  | .text s => .ok (writeText s)
  | s => do return '"' :: (← writeScalar s) ++ ['"']

def lead (indent : Option Nat) (depth : Nat) : List Char :=
  match indent with
  | none => []
  | some n => '\n' :: List.replicate (n * depth) ' '

def separator (indent : Option Nat) (depth : Nat) : List Char :=
  match indent with
  | none => [',', ' ']
  | some _ => ',' :: lead indent depth

def enclose (indent : Option Nat) (depth : Nat) (opening closing : Char) :
    List (List Char) → List Char
  | [] => [opening, closing]
  | parts => opening :: lead indent (depth + 1) ++
      (separator indent (depth + 1)).intercalate parts ++ lead indent depth ++ [closing]

mutual

def writeValue (indent : Option Nat) (depth : Nat) : Value → Except Fault (List Char)
  | .scalar s => writeScalar s
  | .list items => do
    return enclose indent depth '[' ']' (← writeItems indent (depth + 1) items)
  | .mapping entries => do
    return enclose indent depth '\x7b' '\x7d' (← writeEntries indent (depth + 1) entries)
  | .pair first second => do
    let first ← writeValue indent (depth + 1) first
    return enclose indent depth '[' ']' [first, ← writeValue indent (depth + 1) second]
  | v => .error (.notInJson v.typeName)

def writeItems (indent : Option Nat) (depth : Nat) :
    List Value → Except Fault (List (List Char))
  | [] => .ok []
  | v :: rest => do
    let head ← writeValue indent depth v
    return head :: (← writeItems indent depth rest)

def writeEntries (indent : Option Nat) (depth : Nat) :
    List (Scalar × Value) → Except Fault (List (List Char))
  | [] => .ok []
  | (k, v) :: rest => do
    let key ← writeKey k
    let head ← writeValue indent depth v
    return (key ++ ':' :: ' ' :: head) :: (← writeEntries indent depth rest)

end

/-- The text of a value; with `indent`, every item has its own line, indented by so many blanks for
each level. -/
def render (indent : Option Nat) (v : Value) : Except Fault String :=
  (writeValue indent 0 v).map String.ofList

end LabelPress.Json
