import LabelPress.Calendar.Basic
import LabelPress.Text.Digit

/-!
# Timestamps

A timestamp is a date, with or without a time of day and an offset from universal time. Its numbers
are read here and only later checked against the calendar.
-/

namespace LabelPress.Yaml

structure StampTime where
  hour : Nat
  minute : Nat
  second : Nat
  /-- The digits after the point. -/
  fraction : List Char
  /-- The minutes ahead of universal time. -/
  offset : Option Int

structure Timestamp where
  year : Nat
  month : Nat
  day : Nat
  time : Option StampTime

namespace Timestamp

def numeral (ds : List Char) : Nat := ds.foldl (fun n d => n * 10 + (d.toNat - '0'.toNat)) 0

def digits (least most : Nat) (cs : List Char) : Option (Nat × List Char) :=
  let ds := (cs.take most).takeWhile Text.isAsciiDigit
  if ds.length < least then none else some (numeral ds, cs.drop ds.length)

def after (c : Char) : List Char → Option (List Char)
  | [] => none
  | d :: rest => if d = c then some rest else none

/-- What follows the mark between date and time: a letter, or blanks. -/
def afterMark (cs : List Char) : Option (List Char) :=
  match cs with
  | [] => none
  | c :: rest =>
    if c == 'T' || c == 't' then some rest
    else
      let after := cs.dropWhile fun c => c == ' ' || c == '\t'
      if after.length < cs.length then some after else none

/-- The offset that all of `cs` is, blanks before it apart. -/
def offset? (cs : List Char) : Option (Option Int) :=
  match cs.dropWhile fun c => c == ' ' || c == '\t' with
  | [] => if cs.isEmpty then some none else none
  | ['Z'] => some (some 0)
  | sign :: rest => do
    if sign ≠ '+' ∧ sign ≠ '-' then none
    let (hours, rest) ← digits 1 2 rest
    let minutes ← match rest with
      | [] => some 0
      | ':' :: rest => do
        let (minutes, rest) ← digits 2 2 rest
        if rest.isEmpty then some minutes else none
      | _ => none
    let all : Int := hours * 60 + minutes
    return some (if sign = '-' then -all else all)

def time? (cs : List Char) : Option StampTime := do
  let (hour, cs) ← digits 1 2 cs
  let (minute, cs) ← digits 2 2 (← after ':' cs)
  let (second, cs) ← digits 2 2 (← after ':' cs)
  let (fraction, cs) := match cs with
    | '.' :: rest => (rest.takeWhile Text.isAsciiDigit, rest.dropWhile Text.isAsciiDigit)
    | cs => ([], cs)
  return ⟨hour, minute, second, fraction, ← offset? cs⟩

def ofChars? (cs : List Char) : Option Timestamp := do
  let (year, cs) ← digits 4 4 cs
  let (month, cs) ← digits 1 2 (← after '-' cs)
  let (day, cs) ← digits 1 2 (← after '-' cs)
  if cs.isEmpty then return ⟨year, month, day, none⟩
  return ⟨year, month, day, some (← time? (← afterMark cs))⟩

/-- Whether `cs` is a timestamp without being marked as one: a date without a time then has all its
digits. -/
def isPlain (cs : List Char) : Bool :=
  match ofChars? cs with
  | some stamp => stamp.time.isSome || cs.length == 10
  | none => false

end Timestamp
end LabelPress.Yaml
