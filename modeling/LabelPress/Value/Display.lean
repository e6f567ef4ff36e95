import LabelPress.Calendar.Iso
import LabelPress.Text.Quoted
import LabelPress.Value.Basic

/-!
# Values as text

A value has two texts. Printed by itself, a text stands as it is and a date in its ISO form. Shown
in a message or inside a list, a text stands between quotes and a date as the call that makes it.
Both fail only on integers with more digits than can be written.
-/

namespace LabelPress

def commaSeparated (items : List Text) : Text := Text.join ", " items

def Scalar.typeName : Scalar → Text
  | null => "NoneType"
  | bool _ => "bool"
  | number (.int _) => "int"
  | number (.real _) => "float"
  | text _ => "str"
  | date _ => "date"
  | dateTime _ => "datetime"
  | time _ => "time"
  | bytes _ => "bytes"

def Value.typeName : Value → Text
  | scalar s => s.typeName
  | list _ => "list"
  | mapping _ => "dict"
  | set _ => "set"
  | pair _ _ => "tuple"
  | loop _ body => body.typeName
  | again _ .list => "list"
  | again _ .mapping => "dict"

def Value.qualifiedTypeName (v : Value) : Text :=
  match v with
  | .scalar (.date _) | .scalar (.dateTime _) | .scalar (.time _) => "datetime." ++ v.typeName
  | v => v.typeName

namespace Shown

def call (name : Text) (arguments : List Text) : Text :=
  name ++ "(" ++ commaSeparated arguments ++ ")"

def span (microseconds : Int) : Text :=
  let days := microseconds / 86400000000
  let rest := microseconds % 86400000000
  let parts := [("days", days), ("seconds", rest / 1000000), ("microseconds", rest % 1000000)]
  let shown := (parts.filter fun (_, n) => n != 0).map fun (name, n) => name ++ "=" ++ toString n
  call "datetime.timedelta" (if shown.isEmpty then ["0"] else shown)

def digits (n : Nat) : Text := toString n

def offset (o : Offset) : Text :=
  if o.microseconds = 0 then "datetime.timezone.utc"
  else call "datetime.timezone" [span o.microseconds]

/-- The arguments that make a time: zero seconds and microseconds are left out at the end. -/
def clock (t : TimeOfDay) : List Text :=
  [digits t.hour, digits t.minute] ++
    (if t.microsecond ≠ 0 then [digits t.second, digits t.microsecond]
     else if t.second ≠ 0 then [digits t.second]
     else []) ++
    (t.offset.map fun o => "tzinfo=" ++ offset o).toList

def day (d : Date) : List Text := [digits d.year, digits d.month, digits d.day]

end Shown

def boolText (b : Bool) : Text := if b then "True" else "False"

def Scalar.printed : Scalar → Except ArithmeticFault Text
  | null => .ok "None"
  | bool b => .ok (boolText b)
  | number n => n.text.map .ofString
  | text s => .ok s
  | date d => .ok (.ofChars d.isoChars)
  | dateTime t => .ok (.ofChars (t.isoChars ' '))
  | time t => .ok (.ofChars t.isoChars)
  | bytes b => .ok (Text.quotedBytes b)

def Scalar.shown : Scalar → Except ArithmeticFault Text
  | text s => .ok (Text.quoted s)
  | date d => .ok (Shown.call "datetime.date" (Shown.day d))
  | dateTime t => .ok (Shown.call "datetime.datetime" (Shown.day t.date ++ Shown.clock t.time))
  | time t => .ok (Shown.call "datetime.time" (Shown.clock t))
  | s => s.printed

def shownSet (members : List Scalar) : Except ArithmeticFault Text := do
  if members.isEmpty then return Shown.call "set" []
  return "\x7b" ++ commaSeparated (← members.mapM Scalar.shown) ++ "\x7d"

mutual

/-- The text of a value in a message or inside a list. A collection that comes again inside itself
is left out. A value nested too deeply for a stack to hold is assumed not to be shown. -/
def Value.shown : Value → Except ArithmeticFault Text
  | .scalar s => s.shown
  | .list items => do return "[" ++ commaSeparated (← Value.shownItems items) ++ "]"
  | .mapping entries => do return "\x7b" ++ commaSeparated (← Value.shownEntries entries) ++ "\x7d"
  | .set members => shownSet members
  | .pair first second => do
    let first ← first.shown
    return "(" ++ commaSeparated [first, ← second.shown] ++ ")"
  | .loop _ body => body.shown
  | .again _ .list => .ok "[...]"
  | .again _ .mapping => .ok "\x7b...\x7d"

def Value.shownItems : List Value → Except ArithmeticFault (List Text)
  | [] => .ok []
  | v :: rest => do
    let head ← v.shown
    return head :: (← Value.shownItems rest)

def Value.shownEntries : List (Scalar × Value) → Except ArithmeticFault (List Text)
  | [] => .ok []
  | (k, v) :: rest => do
    let key ← k.shown
    let value ← v.shown
    return (key ++ ": " ++ value) :: (← Value.shownEntries rest)

end

def Value.printed : Value → Except ArithmeticFault Text
  | .scalar s => s.printed
  | v => v.shown

end LabelPress
