/-!
# Dates and times

Days of the Gregorian calendar, times of day that may carry an offset from universal time, and both
together. The fields of each are in range by construction.
-/

namespace LabelPress

inductive CalendarFault where
  | year (y : Nat)
  | month
  | day
  | hour
  | minute
  | second
  | offset (microseconds : Int)
  deriving DecidableEq

def isLeap (y : Nat) : Bool := y % 4 == 0 && (y % 100 != 0 || y % 400 == 0)

def monthLengths (y : Nat) : List Nat :=
  [31, if isLeap y then 29 else 28, 31, 30, 31, 30, 31, 31, 30, 31, 30, 31]

/-- The number of days of a month, zero for a month that does not exist. -/
def daysInMonth (y m : Nat) : Nat :=
  if m = 0 then 0 else (monthLengths y).getD (m - 1) 0

structure Date where
  year : Nat
  month : Nat
  day : Nat
  year_valid : 1 ≤ year ∧ year ≤ 9999
  month_valid : 1 ≤ month ∧ month ≤ 12
  day_valid : 1 ≤ day ∧ day ≤ daysInMonth year month
  deriving DecidableEq

namespace Date

def ofFields (y m d : Nat) : Except CalendarFault Date :=
  if hy : 1 ≤ y ∧ y ≤ 9999 then
    if hm : 1 ≤ m ∧ m ≤ 12 then
      if hd : 1 ≤ d ∧ d ≤ daysInMonth y m then .ok ⟨y, m, d, hy, hm, hd⟩
      else .error .day
    else .error .month
  else .error (.year y)

/-- The first day of 1900, which stands in for the day of a time without one. -/
def epoch1900 : Date := ⟨1900, 1, 1, by decide, by decide, by decide⟩

def daysBeforeYear (y : Nat) : Nat :=
  let p := y - 1
  p * 365 + p / 4 - p / 100 + p / 400

/-- The number of a day, counted from the first of January of the year 1, which is day one. -/
def ordinal (d : Date) : Nat :=
  daysBeforeYear d.year + ((monthLengths d.year).take (d.month - 1)).foldl (· + ·) d.day

def monthAndDay (month : Nat) : List Nat → Nat → Nat × Nat
  | [], n => (month, n)
  | l :: rest, n => if n ≤ l then (month, n) else monthAndDay (month + 1) rest (n - l)

/-- The `n`th day of the year `y` or, if that has fewer days, of the next one; the zeroth day and
those before it, `back` of them, belong to the year before. -/
def ofDayOfYear (y n back : Nat) : Except CalendarFault Date :=
  if n = 0 then ofFields (y - 1) 12 (31 - back)
  else
    let size := if isLeap y then 366 else 365
    let (y, n) := if n ≤ size then (y, n) else (y + 1, n - size)
    let (m, d) := monthAndDay 1 (monthLengths y) n
    ofFields y m d

end Date

structure Offset where
  microseconds : Int
  valid : microseconds.natAbs < 86400000000
  deriving DecidableEq

def Offset.ofMicroseconds (n : Int) : Except CalendarFault Offset :=
  if h : n.natAbs < 86400000000 then .ok ⟨n, h⟩ else .error (.offset n)

def Offset.zero : Offset := ⟨0, by decide⟩

structure TimeOfDay where
  hour : Nat
  minute : Nat
  second : Nat
  microsecond : Nat
  offset : Option Offset
  hour_valid : hour < 24
  minute_valid : minute < 60
  second_valid : second < 60
  microsecond_valid : microsecond < 1000000
  deriving DecidableEq

namespace TimeOfDay

/-- The time with these fields. A count of microseconds is never out of range where it is read. -/
def ofFields (h m s us : Nat) (offset : Option Offset) : Except CalendarFault TimeOfDay :=
  if hh : h < 24 then
    if hm : m < 60 then
      if hs : s < 60 then
        .ok ⟨h, m, s, us % 1000000, offset, hh, hm, hs, Nat.mod_lt _ (by decide)⟩
      else .error .second
    else .error .minute
  else .error .hour

def midnight : TimeOfDay :=
  ⟨0, 0, 0, 0, none, by decide, by decide, by decide, by decide⟩

def microseconds (t : TimeOfDay) : Nat :=
  ((t.hour * 60 + t.minute) * 60 + t.second) * 1000000 + t.microsecond

end TimeOfDay

structure DateTime where
  date : Date
  time : TimeOfDay
  deriving DecidableEq

/-- The microseconds since the start of the calendar, by the clock of universal time if the offset
from it is known. -/
def DateTime.instant (t : DateTime) : Int :=
  t.date.ordinal * 86400000000 + t.time.microseconds -
    (t.time.offset.map (·.microseconds)).getD 0

end LabelPress
