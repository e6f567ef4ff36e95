import LabelPress.Calendar.Basic
import LabelPress.Number
import LabelPress.Text.Basic

/-!
# Values

What documents and bindings are made of: scalars, lists and mappings, and now and then sets and
pairs. A mapping is a list of entries in the order in which its keys came; its keys are scalars, no
two of them the same. A collection may hold itself: it is a loop, and where it comes again inside
itself only its label stands. A loop is looked into one level at a time, by `Value.head`.
-/

namespace LabelPress

inductive Scalar where
  | null
  | bool (b : Bool)
  | number (n : Number)
  | text (s : Text)
  | date (d : Date)
  | dateTime (t : DateTime)
  | time (t : TimeOfDay)
  | bytes (b : List UInt8)
  deriving DecidableEq

/-- The two kinds of collections that can hold themselves. -/
inductive Shape where
  | list
  | mapping
  deriving DecidableEq

/-- A scalar, a collection, or the place where a collection comes again inside itself. -/
inductive Value where
  | scalar (s : Scalar)
  | list (items : List Value)
  | mapping (entries : List (Scalar × Value))
  | set (members : List Scalar)
  | pair (first second : Value)
  /-- A list or mapping that holds itself, where `again label` stands inside. -/
  | loop (label : Nat) (body : Value)
  | again (label : Nat) (shape : Shape)

abbrev Entries := List (Scalar × Value)

namespace Scalar

/-- The number that a scalar counts as when it is compared: a truth value counts as zero or one. -/
def toNumber? : Scalar → Option Number
  | bool b => some (.int (if b then 1 else 0))
  | number n => some n
  | _ => none

/-- Whether two times stand for the same moment of a day; one with and one without an offset from
universal time never do. -/
def sameTime (s t : TimeOfDay) : Bool :=
  match s.offset, t.offset with
  | none, none => s.microseconds == t.microseconds
  | some o, some p =>
    (s.microseconds : Int) - o.microseconds == (t.microseconds : Int) - p.microseconds
  | _, _ => false

/-- Whether two scalars are the same key. As a key, what is no number is the same as itself where
both come from one constant. -/
def same (a b : Scalar) : Bool :=
  match a.toNumber?, b.toNumber? with
  | some m, some n => m.alike n
  | none, none => match a, b with
    | dateTime s, dateTime t =>
      s.time.offset.isSome == t.time.offset.isSome && s.instant == t.instant
    | time s, time t => sameTime s t
    | a, b => a == b
  | _, _ => false

end Scalar

namespace Entries

def insert (key : Scalar) (value : Value) : Entries → Entries
  | [] => [(key, value)]
  | (k, v) :: rest =>
    if k.same key then (k, value) :: rest else (k, v) :: insert key value rest

def ofList (entries : List (Scalar × Value)) : Entries :=
  entries.foldl (fun acc (k, v) => insert k v acc) []

def get? (name : Text) : Entries → Option Value
  | [] => none
  | (.text k, v) :: rest => if k = name then some v else get? name rest
  | _ :: rest => get? name rest

def has (name : Text) (entries : Entries) : Bool := (get? name entries).isSome

def getOrNull (name : Text) (entries : Entries) : Value :=
  (get? name entries).getD (.scalar .null)

end Entries

namespace Value

@[match_pattern] abbrev null : Value := .scalar .null
@[match_pattern] abbrev bool (b : Bool) : Value := .scalar (.bool b)
@[match_pattern] abbrev number (n : Number) : Value := .scalar (.number n)
@[match_pattern] abbrev text (s : Text) : Value := .scalar (.text s)

def ofFields (fields : List (Text × Value)) : Value :=
  .mapping (fields.map fun (k, v) => (.text k, v))

def ofText? (s : Option Text) : Value := (s.map text).getD null

/-- The number that a value is; a truth value is none. -/
def number? : Value → Option Number
  | number n => some n
  | _ => none

def text? : Value → Option Text
  | text s => some s
  | _ => none

def bool? : Value → Option Bool
  | bool b => some b
  | _ => none

def unlessNull? (read : Value → Option α) : Value → Option (Option α)
  | null => some none
  | v => (read v).map some

def isNull : Value → Bool
  | null => true
  | _ => false

/-- Whether a value counts as true: all but nulls, zeros and what is empty do. -/
def isTrue : Value → Bool
  | null => false
  | bool b => b
  | number n => !n.isZero
  | text s => !s.isEmpty
  | scalar (.bytes b) => !b.isEmpty
  | scalar _ => true
  | list items => !items.isEmpty
  | mapping entries => !entries.isEmpty
  | set members => !members.isEmpty
  | pair _ _ => true
  | loop _ body => body.isTrue
  | again _ _ => true

def shape : Value → Shape
  | list _ => .list
  | _ => .mapping

mutual

/-- A value inside the loops `labels`, which need not be told once more. -/
def within (labels : List Nat) : Value → Value
  | scalar s => scalar s
  | list items => list (withinItems labels items)
  | mapping entries => mapping (withinEntries labels entries)
  | set members => set members
  | pair first second => pair (first.within labels) (second.within labels)
  | loop label body =>
    if labels.contains label then again label body.shape else loop label (body.within labels)
  | again label shape => again label shape

def withinItems (labels : List Nat) : List Value → List Value
  | [] => []
  | v :: rest => v.within labels :: withinItems labels rest

def withinEntries (labels : List Nat) : List (Scalar × Value) → List (Scalar × Value)
  | [] => []
  | (k, v) :: rest => (k, v.within labels) :: withinEntries labels rest

end

mutual

/-- A part of `whole`, the loop called `label`, as a value by itself: `whole` stands in full where
it comes again. The part is inside the loops `labels`. -/
def detached (whole : Value) (label : Nat) (labels : List Nat) : Value → Value
  | scalar s => scalar s
  | list items => list (detachedItems whole label labels items)
  | mapping entries => mapping (detachedEntries whole label labels entries)
  | set members => set members
  | pair first second =>
    pair (detached whole label labels first) (detached whole label labels second)
  | loop inner body => loop inner (detached whole label (inner :: labels) body)
  | again other shape => if other = label then whole.within labels else again other shape

def detachedItems (whole : Value) (label : Nat) (labels : List Nat) : List Value → List Value
  | [] => []
  | v :: rest => detached whole label labels v :: detachedItems whole label labels rest

def detachedEntries (whole : Value) (label : Nat) (labels : List Nat) :
    List (Scalar × Value) → List (Scalar × Value)
  | [] => []
  | (k, v) :: rest =>
    (k, detached whole label labels v) :: detachedEntries whole label labels rest

end

/-- A value with its first level in sight: a loop opened, and every other value as it is. -/
def head : Value → Value
  | loop label body => detached (loop label body) label [] body
  | v => v

def entries (v : Value) : Entries :=
  match v.head with
  | mapping es => es
  | _ => []

end Value
end LabelPress
