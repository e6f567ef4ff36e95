import LabelPress.Calendar.Basic
import LabelPress.Text.Digit

/-!
# Dates and times as text

The ISO 8601 text of dates and times, and its reading. A date is a day of a month, with or without
dashes, or a week of a year and perhaps a day of it. One character of any kind then separates it
from a time, with or without colons, whose fraction and offset are optional.
-/

namespace LabelPress

def paddedDigits (width n : Nat) : List Char :=
  let ds := Nat.toDigits 10 n
  List.replicate (width - ds.length) '0' ++ ds

def Date.isoChars (d : Date) : List Char :=
  paddedDigits 4 d.year ++ '-' :: paddedDigits 2 d.month ++ '-' :: paddedDigits 2 d.day

def fractionChars (microseconds : Nat) : List Char :=
  if microseconds = 0 then [] else '.' :: paddedDigits 6 microseconds

def Offset.isoChars (o : Offset) : List Char :=
  let n := o.microseconds.natAbs
  let seconds := n / 1000000
  (if o.microseconds < 0 then '-' else '+') :: paddedDigits 2 (seconds / 3600) ++
    ':' :: paddedDigits 2 (seconds / 60 % 60) ++
    (if n % 60000000 = 0 then [] else ':' :: paddedDigits 2 (seconds % 60)) ++
    fractionChars (n % 1000000)

def TimeOfDay.isoChars (t : TimeOfDay) : List Char :=
  paddedDigits 2 t.hour ++ ':' :: paddedDigits 2 t.minute ++ ':' :: paddedDigits 2 t.second ++
    fractionChars t.microsecond ++ (t.offset.map (·.isoChars)).getD []

def DateTime.isoChars (separator : Char) (t : DateTime) : List Char :=
  t.date.isoChars ++ separator :: t.time.isoChars

namespace Iso

def digits (n : Nat) (cs : List Char) : Option (Nat × List Char) :=
  let ds := cs.take n
  if ds.length = n ∧ ds.all Text.isAsciiDigit then
    some (ds.foldl (fun a c => a * 10 + (c.toNat - '0'.toNat)) 0, cs.drop n)
  else none

/-- What follows the dash that `cs` starts with, if one is asked for. -/
def dash (needed : Bool) (cs : List Char) : Option (List Char) :=
  if needed then
    match cs with
    | '-' :: rest => some rest
    | _ => none
  else some cs

/-- The number of characters of the date that a text of at least seven characters starts with. -/
def dateLength (cs : List Char) : Option Nat :=
  let n := cs.length
  let charAt (i : Nat) (c : Char) : Bool := cs[i]? == some c
  let digitAt (i : Nat) : Bool := (cs[i]?.map Text.isAsciiDigit).getD false
  if n = 7 then some 7
  else if charAt 4 '-' then
    if charAt 5 'W' then
      if n > 8 && charAt 8 '-' then
        if n = 9 then none
        else if n > 10 && digitAt 10 then some 8
        else some 10
      else some 8
    else some 10
  else if charAt 4 'W' then
    let place := 7 + ((cs.drop 7).takeWhile Text.isAsciiDigit).length
    if place < 9 then some place else if place % 2 = 0 then some 7 else some 8
  else some 8

def firstWeekday (y : Nat) : Nat := Date.daysBeforeYear y % 7

def hasWeek53 (y : Nat) : Bool := firstWeekday y == 3 || (firstWeekday y == 2 && isLeap y)

/-- The day `d` of the week `w` of the year `y`. The first week holds the first Thursday. -/
def ofWeek (y w d : Nat) : Option Date :=
  if y < 1 ∨ 9999 < y ∨ w < 1 ∨ 53 < w ∨ (w = 53 ∧ !hasWeek53 y) ∨ d < 1 ∨ 7 < d then none
  else
    let first := firstWeekday y
    -- The Monday of the first week lies `first` days before the first of January, or in January.
    let shift : Int := if first ≤ 3 then first else (first : Int) - 7
    let place : Int := ((w - 1) * 7 + d : Nat) - shift
    let back := if place < 1 then (-place).toNat else 0
    (Date.ofDayOfYear y place.toNat back).toOption

def date (cs : List Char) : Option Date := do
  let (y, rest) ← digits 4 cs
  let dashed := rest.head? == some '-'
  let rest := if dashed then rest.drop 1 else rest
  match rest with
  | 'W' :: rest =>
    let (w, rest) ← digits 2 rest
    match rest with
    | [] => ofWeek y w 1
    | _ =>
      let (d, rest) ← digits 1 (← dash dashed rest)
      if rest.isEmpty then ofWeek y w d else none
  | _ =>
    let (m, rest) ← digits 2 rest
    let (d, rest) ← digits 2 (← dash dashed rest)
    if rest.isEmpty then (Date.ofFields y m d).toOption else none

structure Clock where
  hour : Nat := 0
  minute : Nat := 0
  second : Nat := 0
  microsecond : Nat := 0

def endMark : Char := '\x00'

def fraction (clock : Clock) (cs : List Char) (next : Char) : Option (Clock × Bool) := do
  let n := min 6 cs.length
  let (value, rest) ← digits n cs
  let after := (rest.dropWhile Text.isAsciiDigit).headD next
  return ({ clock with microsecond := value * Nat.pow 10 (6 - n) }, after != endMark)

inductive Turn where
  | field (rest : List Char)
  | fraction (rest : List Char)
  | stop (trailing : Bool)
  | fail

/-- The way on after a field, where `cs` remains, `next` follows it, and `colons` tells whether
colons separate the fields. One ASCII character may be left over before an offset. -/
def turn (colons : Bool) (cs : List Char) (next : Char) : Turn :=
  match cs with
  | [] => .stop (next != endMark)
  | [c] => if c.toNat < 0x80 then .stop (c != endMark) else .fail
  | c :: rest =>
    if colons && c == ':' then .field rest
    else if c == '.' || c == ',' then .fraction rest
    else if !colons then .field cs
    else .fail

def clock (cs : List Char) (next : Char) : Option (Clock × Bool) := do
  let (h, rest) ← digits 2 cs
  let colons := rest.headD next == ':'
  let c : Clock := ⟨h, 0, 0, 0⟩
  match turn colons rest next with
  | .fail => none
  | .stop trailing => return (c, trailing)
  | .fraction rest => fraction c rest next
  | .field rest =>
    let (m, rest) ← digits 2 rest
    let c := { c with minute := m }
    match turn colons rest next with
    | .fail => none
    | .stop trailing => return (c, trailing)
    | .fraction rest => fraction c rest next
    | .field rest =>
      let (s, rest) ← digits 2 rest
      let c := { c with second := s }
      match turn colons rest next with
      | .fail => none
      | .stop trailing => return (c, trailing)
      | .fraction rest | .field rest => fraction c rest next

def startsOffset (c : Char) : Bool := c == '+' || c == '-' || c == 'Z'

/-- The offset that stands after its first character `sign`. One of less than a second is none. -/
def offset (sign : Char) (cs : List Char) : Option Offset := do
  if sign == 'Z' then
    if cs.headD endMark == endMark then some Offset.zero else none
  else
    let (c, trailing) ← clock cs endMark
    if trailing then none
    else
      let seconds := (c.hour * 60 + c.minute) * 60 + c.second
      let n : Int := if seconds = 0 then 0 else seconds * 1000000 + c.microsecond
      (Offset.ofMicroseconds (if sign == '-' then -n else n)).toOption

def time (cs : List Char) : Option TimeOfDay := do
  let before := cs.takeWhile fun c => !startsOffset c
  match cs.dropWhile fun c => !startsOffset c with
  | [] =>
    let (c, trailing) ← clock before endMark
    if trailing then none
    else (TimeOfDay.ofFields c.hour c.minute c.second c.microsecond none).toOption
  | sign :: rest =>
    let (c, _) ← clock before sign
    let o ← offset sign rest
    (TimeOfDay.ofFields c.hour c.minute c.second c.microsecond (some o)).toOption

def dateTime (cs : List Char) : Option DateTime := do
  if cs.length < 7 then none
  else
    let n ← dateLength cs
    let d ← date (cs.take n)
    match cs.drop n with
    | [] => return ⟨d, .midnight⟩
    | _ :: rest => return ⟨d, ← time rest⟩

end Iso

def Iso.separatorPlaces : List Nat := [7, 8, 10]

/-- The characters of a text in which a half may separate a day from a time. -/
def Iso.chars? (t : Text) : Option (List Char) :=
  match separatorPlaces.find? fun i => (t[i]?).any fun c => c.char?.isNone with
  | some i => Text.chars? (t.set i 'T')
  | none => Text.chars? t

def DateTime.ofIso? (t : Text) : Option DateTime := (Iso.chars? t).bind Iso.dateTime

def Date.ofIso? (t : Text) : Option Date := (Text.chars? t).bind Iso.date

def TimeOfDay.ofIso? (t : Text) : Option TimeOfDay :=
  match Text.chars? t with
  | some ('T' :: rest) => Iso.time rest
  | some cs => Iso.time cs
  | none => none

end LabelPress
