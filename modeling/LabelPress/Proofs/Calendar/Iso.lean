import LabelPress.Proofs.Calendar.Pattern
import Mathlib.Data.List.TakeWhile

/-!
# Reading back dates and times

The ISO text of a time of a day is read back as that time, whatever character separates it from the
day; only an offset of less than a second is lost. The text of a day is read as its midnight. The
text of a time alone is no time of a day: a colon stands where its year would go on.
-/

namespace LabelPress

def Offset.asRead (o : Offset) : Offset :=
  if o.microseconds.natAbs < 1000000 then .zero else o

def TimeOfDay.asRead (t : TimeOfDay) : TimeOfDay := { t with offset := t.offset.map (·.asRead) }

def DateTime.asRead (t : DateTime) : DateTime := { t with time := t.time.asRead }

def TimeOfDay.clockChars (t : TimeOfDay) : List Char :=
  paddedDigits 2 t.hour ++ ':' :: paddedDigits 2 t.minute ++ ':' :: paddedDigits 2 t.second ++
    fractionChars t.microsecond

def Offset.sign (o : Offset) : Char := if o.microseconds < 0 then '-' else '+'

def Offset.seconds (o : Offset) : Nat := o.microseconds.natAbs / 1000000

def Offset.clockChars (o : Offset) : List Char :=
  paddedDigits 2 (o.seconds / 3600) ++ ':' :: paddedDigits 2 (o.seconds / 60 % 60) ++
    (if o.microseconds.natAbs % 60000000 = 0 then [] else ':' :: paddedDigits 2 (o.seconds % 60)) ++
    fractionChars (o.microseconds.natAbs % 1000000)

theorem Offset.isoChars_eq (o : Offset) : o.isoChars = o.sign :: o.clockChars := rfl

theorem TimeOfDay.isoChars_eq (t : TimeOfDay) :
    t.isoChars = t.clockChars ++ (t.offset.map (·.isoChars)).getD [] := rfl

theorem Date.ofFields_self (d : Date) : ofFields d.year d.month d.day = .ok d := by
  rw [ofFields, dif_pos d.year_valid, dif_pos d.month_valid, dif_pos d.day_valid]

theorem Offset.ofMicroseconds_self (o : Offset) : ofMicroseconds o.microseconds = .ok o :=
  dif_pos o.valid

theorem TimeOfDay.ofFields_self (t : TimeOfDay) (o : Option Offset) :
    ofFields t.hour t.minute t.second t.microsecond o = .ok { t with offset := o } := by
  rw [ofFields, dif_pos t.hour_valid, dif_pos t.minute_valid, dif_pos t.second_valid]
  simp only [Nat.mod_eq_of_lt t.microsecond_valid]

theorem Date.isoChars_ne_nil (d : Date) : d.isoChars ≠ [] := by
  simp [isoChars]

theorem DateTime.isoChars_ne_nil (t : DateTime) (separator : Char) : t.isoChars separator ≠ [] := by
  simp [isoChars]

theorem TimeOfDay.isoChars_ne_nil (t : TimeOfDay) : t.isoChars ≠ [] := by
  simp [isoChars]

theorem isAsciiDigit_of_mem_paddedDigits (hwidth : 0 < width) (h : n < 10 ^ width) :
    ∀ c ∈ paddedDigits width n, Text.isAsciiDigit c = true := by
  rw [paddedDigits_eq hwidth h]
  exact fun c hc => isAsciiDigit_of_mem_lastDigits hc

theorem paddedDigits_ne_nil (hwidth : 0 < width) (h : n < 10 ^ width) :
    paddedDigits width n ≠ [] := by
  rw [paddedDigits_eq hwidth h]
  refine List.ne_nil_of_length_pos ?_
  rw [length_lastDigits]
  exact hwidth

namespace Date
variable (d : Date)

theorem year_lt : d.year < 10 ^ 4 := Nat.lt_succ_of_le d.year_valid.2

theorem month_lt : d.month < 10 ^ 2 := Nat.lt_of_le_of_lt d.month_valid.2 (by decide)

theorem day_lt : d.day < 10 ^ 2 :=
  Nat.lt_of_le_of_lt (d.day_valid.2.trans (daysInMonth_le _ _)) (by decide)

end Date

namespace TimeOfDay
variable (t : TimeOfDay)

theorem hour_lt : t.hour < 10 ^ 2 := t.hour_valid.trans (by decide)

theorem minute_lt : t.minute < 10 ^ 2 := t.minute_valid.trans (by decide)

theorem second_lt : t.second < 10 ^ 2 := t.second_valid.trans (by decide)

end TimeOfDay

namespace Iso
variable {next : Char} {h m s us n : Nat} {rest : List Char}

theorem digits_paddedDigits (hwidth : 0 < width) (hn : n < 10 ^ width) :
    digits width (paddedDigits width n) = some (n, []) := by
  rw [← List.append_nil (paddedDigits width n), digits_append hwidth hn]

/-! ## Days -/

theorem digitChar_ne_week (d : Date) : Nat.digitChar (d.month / 10 % 10) ≠ 'W' :=
  (by decide : ∀ n < 10, Nat.digitChar n ≠ 'W') _ (Nat.mod_lt _ (by decide))

theorem date_isoChars (d : Date) : date d.isoChars = some d := by
  have hmonth := digits_append (by decide) d.month_lt ('-' :: paddedDigits 2 d.day)
  have hday := digits_paddedDigits (by decide) d.day_lt
  rw [Date.isoChars, List.append_assoc, date, List.cons_append, digits_append (by decide) d.year_lt]
  simp only [Option.bind_eq_bind, Option.bind_some, List.head?_cons, BEq.rfl, if_true,
    List.drop_one, List.tail_cons]
  split
  · next hweek =>
    -- A month does not start with the mark of a week.
    rw [paddedDigits_eq (by decide) d.month_lt] at hweek
    exact absurd (List.cons.inj hweek).1 (digitChar_ne_week d)
  · simp only [hmonth, hday, dash, Option.bind_some, List.isEmpty_nil, if_true, Date.ofFields_self]
    rfl

/-! ## Clocks -/

theorem turn_colon (hrest : rest ≠ []) : turn true (':' :: rest) next = .field rest := by
  cases rest with
  | nil => exact absurd rfl hrest
  | cons c rest => rfl

theorem turn_point (hrest : rest ≠ []) : turn true ('.' :: rest) next = .fraction rest := by
  cases rest with
  | nil => exact absurd rfl hrest
  | cons c rest => rfl

theorem fraction_paddedDigits (hus : us < 10 ^ 6) (c : Clock) :
    fraction c (paddedDigits 6 us) next = some ({ c with microsecond := us }, next != endMark) := by
  have hlength : (paddedDigits 6 us).length = 6 := by
    rw [paddedDigits_eq (by decide) hus, length_lastDigits]
  rw [fraction, hlength, Nat.min_self, digits_paddedDigits (by decide) hus]
  simp

/-- A clock of hours and minutes is read in front of `next`. -/
theorem clock_minutes (hh : h < 10 ^ 2) (hm : m < 10 ^ 2) :
    clock (paddedDigits 2 h ++ ':' :: paddedDigits 2 m) next =
      some (⟨h, m, 0, 0⟩, next != endMark) := by
  rw [clock, digits_append (by decide) hh]
  simp only [Option.bind_eq_bind, Option.bind_some, List.headD_cons, BEq.rfl,
    turn_colon (paddedDigits_ne_nil (by decide) hm), digits_paddedDigits (by decide) hm]
  rfl

/-- A clock with seconds and perhaps a fraction is read in front of `next`. -/
theorem clock_seconds (hh : h < 10 ^ 2) (hm : m < 10 ^ 2) (hs : s < 10 ^ 2) (hus : us < 10 ^ 6) :
    clock (paddedDigits 2 h ++ ':' :: paddedDigits 2 m ++ ':' :: paddedDigits 2 s ++
        fractionChars us) next =
      some (⟨h, m, s, us⟩, next != endMark) := by
  have hminute (rest : List Char) : paddedDigits 2 m ++ rest ≠ [] :=
    List.append_ne_nil_of_left_ne_nil (paddedDigits_ne_nil (by decide) hm) rest
  have hsecond (rest : List Char) : paddedDigits 2 s ++ rest ≠ [] :=
    List.append_ne_nil_of_left_ne_nil (paddedDigits_ne_nil (by decide) hs) rest
  rw [List.append_assoc, List.append_assoc, clock, List.cons_append, digits_append (by decide) hh]
  simp only [Option.bind_eq_bind, Option.bind_some, List.headD_cons, BEq.rfl, List.cons_append,
    turn_colon (hminute _), digits_append (by decide) hm, turn_colon (hsecond _),
    digits_append (by decide) hs]
  by_cases hzero : us = 0
  · subst hzero
    rfl
  · rw [fractionChars, if_neg hzero]
    simp only [turn_point (paddedDigits_ne_nil (by decide) hus), fraction_paddedDigits hus]

/-! ## Offsets -/

theorem clock_clockChars (o : Offset) :
    clock o.clockChars endMark =
      some (⟨o.seconds / 3600, o.seconds / 60 % 60, o.seconds % 60,
        o.microseconds.natAbs % 1000000⟩, false) := by
  have hvalid := o.valid
  have hh : o.seconds / 3600 < 10 ^ 2 := by
    rw [Offset.seconds]
    omega
  have hm : o.seconds / 60 % 60 < 10 ^ 2 := (Nat.mod_lt _ (by decide)).trans (by decide)
  have hs : o.seconds % 60 < 10 ^ 2 := (Nat.mod_lt _ (by decide)).trans (by decide)
  rw [Offset.clockChars]
  -- Whole minutes are written without seconds.
  by_cases hminutes : o.microseconds.natAbs % 60000000 = 0
  · have hsecond : o.seconds % 60 = 0 := by
      rw [Offset.seconds]
      omega
    have hus : o.microseconds.natAbs % 1000000 = 0 := by omega
    rw [if_pos hminutes, hsecond, hus, List.append_nil, fractionChars, if_pos rfl, List.append_nil,
      clock_minutes hh hm]
    rfl
  · have hus : o.microseconds.natAbs % 1000000 < 10 ^ 6 := Nat.mod_lt _ (by decide)
    rw [if_neg hminutes, clock_seconds hh hm hs hus]
    rfl

/-- The size of an offset as it is put together from the seconds and the fraction that are read. -/
theorem natAbs_asRead (o : Offset) :
    (if o.seconds = 0 then (0 : Int)
      else o.seconds * 1000000 + (o.microseconds.natAbs % 1000000 : Nat)) =
      o.asRead.microseconds.natAbs := by
  rw [Offset.asRead, Offset.seconds]
  by_cases hsmall : o.microseconds.natAbs < 1000000
  · rw [if_pos hsmall, if_pos (Nat.div_eq_of_lt hsmall)]
    rfl
  · rw [if_neg hsmall, if_neg (by omega)]
    omega

theorem signed_asRead (o : Offset) :
    (if (o.sign == '-') = true then -(o.asRead.microseconds.natAbs : Int)
      else o.asRead.microseconds.natAbs) = o.asRead.microseconds := by
  have hkept : o.asRead.microseconds = 0 ∨ o.asRead.microseconds = o.microseconds := by
    rw [Offset.asRead]
    split
    · exact .inl rfl
    · exact .inr rfl
  rw [Offset.sign]
  by_cases hneg : o.microseconds < 0
  · rw [if_pos hneg, if_pos BEq.rfl]
    omega
  · rw [if_neg hneg, if_neg (by decide)]
    omega

theorem offset_clockChars (o : Offset) : offset o.sign o.clockChars = some o.asRead := by
  have hmark : (o.sign == 'Z') = false := by
    rw [Offset.sign]
    split <;> rfl
  have htotal :
      (o.seconds / 3600 * 60 + o.seconds / 60 % 60) * 60 + o.seconds % 60 = o.seconds := by
    omega
  rw [offset, hmark, clock_clockChars]
  simp only [Bool.false_eq_true, if_false, Option.bind_eq_bind, Option.bind_some, htotal,
    natAbs_asRead, signed_asRead, Offset.ofMicroseconds_self]
  rfl

/-! ## Times -/

theorem startsOffset_sign (o : Offset) : startsOffset o.sign = true := by
  rw [Offset.sign]
  split <;> rfl

theorem startsOffset_eq_false {c : Char} (hc : Text.isAsciiDigit c = true) :
    startsOffset c = false := by
  by_contra hsign
  simp only [startsOffset, Bool.or_eq_true, beq_iff_eq, Bool.not_eq_false] at hsign
  rcases hsign with (rfl | rfl) | rfl
  all_goals exact absurd hc (by decide)

theorem startsOffset_clockChars (t : TimeOfDay) :
    ∀ c ∈ t.clockChars, (!startsOffset c) = true := by
  have hdigits {width n : Nat} (hwidth : 0 < width) (h : n < 10 ^ width) :
      ∀ c ∈ paddedDigits width n, (!startsOffset c) = true := fun c hc => by
    rw [startsOffset_eq_false (isAsciiDigit_of_mem_paddedDigits hwidth h c hc)]
    rfl
  have hfraction : ∀ c ∈ fractionChars t.microsecond, (!startsOffset c) = true := by
    rw [fractionChars]
    split
    · exact fun c hc => nomatch hc
    · exact List.forall_mem_cons.mpr ⟨rfl, hdigits (by decide) t.microsecond_valid⟩
  simp only [TimeOfDay.clockChars, List.forall_mem_append, List.forall_mem_cons]
  exact ⟨⟨⟨hdigits (by decide) t.hour_lt, rfl, hdigits (by decide) t.minute_lt⟩, rfl,
    hdigits (by decide) t.second_lt⟩, hfraction⟩

theorem time_isoChars (t : TimeOfDay) : time t.isoChars = some t.asRead := by
  have hclock (next : Char) : clock t.clockChars next = _ :=
    clock_seconds t.hour_lt t.minute_lt t.second_lt t.microsecond_valid
  have hbefore := startsOffset_clockChars t
  rw [TimeOfDay.isoChars_eq, time, List.takeWhile_append_of_pos hbefore,
    List.dropWhile_append_of_pos hbefore, TimeOfDay.asRead]
  cases t.offset with
  | none =>
    rw [Option.map_none, Option.getD_none, List.takeWhile_nil, List.dropWhile_nil, List.append_nil,
      hclock]
    simp only [Option.bind_eq_bind, Option.bind_some, bne_self_eq_false, Bool.false_eq_true,
      if_false, TimeOfDay.ofFields_self]
    rfl
  | some o =>
    have hsign := startsOffset_sign o
    rw [Option.map_some, Option.getD_some, Offset.isoChars_eq,
      List.takeWhile_cons_of_neg (by simp [hsign]), List.dropWhile_cons_of_neg (by simp [hsign]),
      List.append_nil]
    simp only [Option.bind_eq_bind, hclock, Option.bind_some, offset_clockChars,
      TimeOfDay.ofFields_self]
    rfl

/-! ## Times of days -/

theorem length_date_isoChars (d : Date) : d.isoChars.length = 10 := by
  rw [Date.isoChars, paddedDigits_eq (by decide) d.year_lt, paddedDigits_eq (by decide) d.month_lt,
    paddedDigits_eq (by decide) d.day_lt]
  simp [length_lastDigits]

theorem dateLength_isoChars (d : Date) (rest : List Char) :
    dateLength (d.isoChars ++ rest) = some 10 := by
  rw [Date.isoChars, paddedDigits_eq (by decide) d.year_lt, paddedDigits_eq (by decide) d.month_lt,
    paddedDigits_eq (by decide) d.day_lt]
  simp [dateLength, lastDigits, digitChar_ne_week]

theorem dateTime_date (d : Date) : dateTime d.isoChars = some ⟨d, .midnight⟩ := by
  have hlength := length_date_isoChars d
  have hplace := dateLength_isoChars d []
  rw [List.append_nil] at hplace
  rw [dateTime, hlength, if_neg (by decide), hplace]
  simp only [Option.bind_eq_bind, Option.bind_some, ← hlength, List.take_length, List.drop_length,
    date_isoChars]
  rfl

theorem dateTime_isoChars (t : DateTime) (separator : Char) :
    dateTime (t.isoChars separator) = some t.asRead := by
  have hlength := length_date_isoChars t.date
  have hlong : ¬(t.isoChars separator).length < 7 := by
    rw [DateTime.isoChars, List.length_append, hlength]
    omega
  rw [dateTime, if_neg hlong, DateTime.isoChars, dateLength_isoChars]
  simp only [Option.bind_eq_bind, Option.bind_some, List.take_left' hlength,
    List.drop_left' hlength, date_isoChars, time_isoChars]
  rfl

theorem date_take_colon (a b : Char) (rest : List Char) (n : Nat) :
    date ((a :: b :: ':' :: rest).take n) = none := by
  -- The third of the four digits of a year would be the colon.
  have hyear : digits 4 ((a :: b :: ':' :: rest).take n) = none := by
    refine if_neg ?_
    rintro ⟨hlength, hall⟩
    rw [List.take_take] at hlength hall
    rw [List.length_take] at hlength
    have hlong : 4 ≤ n := by omega
    rw [Nat.min_eq_left hlong] at hall
    exact absurd (List.all_eq_true.mp hall ':' (by simp)) (by decide)
  rw [date, hyear]
  rfl

theorem dateTime_time (t : TimeOfDay) : dateTime t.isoChars = none := by
  have hhour := paddedDigits_eq (by decide) t.hour_lt
  rw [TimeOfDay.isoChars_eq, TimeOfDay.clockChars, hhour]
  simp only [lastDigits, List.nil_append, List.cons_append, List.append_assoc]
  rw [dateTime]
  split
  · rfl
  · -- However long the day is taken to be, it starts with the hours and their colon.
    cases dateLength _ with
    | none => rfl
    | some n =>
      simp only [Option.bind_eq_bind, Option.bind_some, date_take_colon]
      rfl

end Iso

/-! ## Texts -/

theorem Iso.chars?_ofChars (cs : List Char) : Iso.chars? (Text.ofChars cs) = some cs := by
  have hwhole : (separatorPlaces.find? fun i =>
      ((Text.ofChars cs)[i]?).any fun c => c.char?.isNone) = none := by
    refine List.find?_eq_none.mpr fun i _ => ?_
    rw [Text.ofChars, List.getElem?_map]
    cases cs[i]? <;> simp [CodePoint.char?]
  rw [Iso.chars?, hwhole]
  exact Text.chars?_ofChars cs

namespace DateTime

theorem ofIso?_date (d : Date) : ofIso? (Text.ofChars d.isoChars) = some ⟨d, .midnight⟩ := by
  rw [ofIso?, Iso.chars?_ofChars, Option.bind_some, Iso.dateTime_date]

/-- A time of a day is read back from its text, up to an offset of less than a second. -/
theorem ofIso?_isoChars (t : DateTime) (separator : Char) :
    ofIso? (Text.ofChars (t.isoChars separator)) = some t.asRead := by
  rw [ofIso?, Iso.chars?_ofChars, Option.bind_some, Iso.dateTime_isoChars]

theorem ofIso?_time (t : TimeOfDay) : ofIso? (Text.ofChars t.isoChars) = none := by
  rw [ofIso?, Iso.chars?_ofChars, Option.bind_some, Iso.dateTime_time]

end DateTime

/-- No pattern shows what is lost in the text of a time of a day. -/
theorem Pattern.format_asRead (pattern : Text) (t : DateTime) :
    format pattern t.asRead = format pattern t :=
  format_congr fun p => by cases p <;> rfl

end LabelPress
