import LabelPress.Proofs.Calendar.Iso
import LabelPress.Proofs.Field.Binding

/-!
# Dates and times in fields

A pattern makes of a date or time what it says. The same comes of the ISO text of a date or of a
time of a day, which names the same moment. The text of a time alone names none: it is printed as it
stands.
-/

namespace LabelPress

inductive Temporal where
  | date (d : Date)
  | dateTime (t : DateTime)
  | time (t : TimeOfDay)

namespace Temporal

def value : Temporal → Value
  | date d => .scalar (.date d)
  | dateTime t => .scalar (.dateTime t)
  | time t => .scalar (.time t)

def moment : Temporal → DateTime
  | date d => ⟨d, .midnight⟩
  | dateTime t => t
  | time t => ⟨.epoch1900, t⟩

def iso : Temporal → Text
  | date d => Text.ofChars d.isoChars
  | dateTime t => Text.ofChars (t.isoChars 'T')
  | time t => Text.ofChars t.isoChars

def hasDay : Temporal → Bool
  | time _ => false
  | _ => true

theorem moment?_value (v : Temporal) : v.value.moment? = some v.moment := by
  cases v <;> rfl

theorem isGiven_value (v : Temporal) : v.value.isGiven = true := by
  cases v <;> rfl

theorem isGiven_iso (v : Temporal) : (Value.text v.iso).isGiven = true := by
  have hne : v.iso ≠ [] := by
    cases v with
    | date d => exact mt List.map_eq_nil_iff.mp d.isoChars_ne_nil
    | dateTime t => exact mt List.map_eq_nil_iff.mp (t.isoChars_ne_nil 'T')
    | time t => exact mt List.map_eq_nil_iff.mp t.isoChars_ne_nil
  simpa [Value.isGiven] using hne

end Temporal

def Value.formatted? (v : Value) (pattern : Text) : Option (Except Text.EncodingFault Text) :=
  v.moment?.map (Pattern.format pattern)

namespace Temporal
variable {pattern : Text} (v : Temporal)

theorem formatted?_value : v.value.formatted? pattern = some (Pattern.format pattern v.moment) := by
  rw [Value.formatted?, moment?_value, Option.map_some]

/-- The ISO text of what has a day names the same moment, as far as a pattern can tell. -/
theorem formatted?_iso (h : v.hasDay = true) :
    (Value.text v.iso).formatted? pattern = some (Pattern.format pattern v.moment) := by
  cases v with
  | date d =>
    rw [Value.formatted?, iso, Value.moment?, DateTime.ofIso?_date]
    rfl
  | dateTime t =>
    rw [Value.formatted?, iso, Value.moment?, DateTime.ofIso?_isoChars, Option.map_some,
      Pattern.format_asRead]
    rfl
  | time t => cases h

theorem formatted?_iso_time (h : v.hasDay = false) :
    (Value.text v.iso).formatted? pattern = none := by
  cases v with
  | date d => cases h
  | dateTime t => cases h
  | time t => rw [Value.formatted?, iso, Value.moment?, DateTime.ofIso?_time, Option.map_none]

end Temporal

namespace FieldSpec
variable {spec : FieldSpec} {pattern : Text}

/-- A pattern is applied to what names a moment; every other value is printed as it is. -/
theorem body_eq (hpattern : spec.pattern = some pattern) (hne : pattern ≠ []) (v : Value) :
    spec.body v =
      (v.formatted? pattern).elim (v.printed.mapError .arithmetic) (·.mapError .unencodable) := by
  have hfilter : spec.pattern.filter (!·.isEmpty) = some pattern := by
    rw [hpattern]
    exact Option.filter_eq_some_iff.mpr ⟨rfl, by simpa using hne⟩
  rw [body, hfilter, Value.formatted?]
  cases v.moment? <;> rfl

theorem render_eq (v : Value) :
    spec.render v = (spec.body v).map fun s => spec.lead ++ s ++ spec.trail := by
  rw [render]
  cases spec.body v <;> rfl

theorem render_eq_render_iff (v w : Value) :
    spec.render v = spec.render w ↔ spec.body v = spec.body w := by
  rw [render_eq, render_eq]
  cases spec.body v <;> cases spec.body w <;> simp [Except.map]

end FieldSpec

variable {spec : FieldSpec} {pattern : Text}

/-- A field with a pattern renders the ISO text of what has a day as it renders that itself. A time
without a day it prints in the ISO form, whatever the pattern makes of the time. -/
theorem FieldSpec.render_iso_iff (hpattern : spec.pattern = some pattern) (hne : pattern ≠ [])
    (v : Temporal) :
    spec.render (.text v.iso) = spec.render v.value ↔
      (v.hasDay = false → Pattern.format pattern v.moment = .ok v.iso) := by
  rw [render_eq_render_iff, body_eq hpattern hne, body_eq hpattern hne, v.formatted?_value]
  cases hday : v.hasDay with
  | true =>
    rw [v.formatted?_iso hday]
    simp
  | false =>
    -- The text names no moment, so it is printed, and the pattern has to make just that.
    rw [v.formatted?_iso_time hday]
    change Except.ok v.iso = (Pattern.format pattern v.moment).mapError _ ↔ _
    cases Pattern.format pattern v.moment <;> simp [Except.mapError, eq_comm]

/-- A field with a pattern prints the same for a date or time as for its ISO text exactly if a day
is given or the pattern makes the ISO text of the time. -/
theorem prints_iso_alike_iff (hpattern : spec.pattern = some pattern) (hne : pattern ≠ [])
    (v : Temporal) :
    (spec.render (.text v.iso) = spec.render v.value ↔
      (v.hasDay = false → Pattern.format pattern v.moment = .ok v.iso)) ∧
    (v.hasDay = false → spec.render (.text v.iso) = .ok (spec.lead ++ v.iso ++ spec.trail)) ∧
    ∀ key catalog b₁ b₂, specOf? catalog key = some spec → b₁.get? key = some (.text v.iso) →
      b₂.get? key = some v.value →
      (fieldText? key b₁ catalog = fieldText? key b₂ catalog ↔
        (v.hasDay = false → Pattern.format pattern v.moment = .ok v.iso)) := by
  have hrender := FieldSpec.render_iso_iff hpattern hne v
  refine ⟨hrender, fun hday => ?_, ?_⟩
  · rw [FieldSpec.render_eq, FieldSpec.body_eq hpattern hne, v.formatted?_iso_time hday]
    rfl
  · intro key catalog b₁ b₂ hspec hiso hvalue
    rw [← hrender, fieldText?_of_given hiso v.isGiven_iso,
      fieldText?_of_given hvalue v.isGiven_value, hspec]
    change (spec.render _).map some = (spec.render _).map some ↔ _
    cases spec.render (.text v.iso) <;> cases spec.render v.value <;> simp [Except.map]

def leapEvening : DateTime where
  date := ⟨2024, 2, 29, by decide, by decide, by decide⟩
  time := ⟨23, 59, 7, 90000, some ⟨-500000, by decide⟩, by decide, by decide, by decide, by decide⟩

def stampSpec : FieldSpec where
  key := "stamp"
  label := "Stamp"
  pattern := some "%YYYY MMM HH:mm:ss"
  lead := "at "

theorem prints_iso_alike_leapEvening :
    stampSpec.pattern = some "%YYYY MMM HH:mm:ss" ∧ ("%YYYY MMM HH:mm:ss" : Text) ≠ [] ∧
    (Temporal.dateTime leapEvening).iso = "2024-02-29T23:59:07.090000-00:00:00.500000" ∧
    stampSpec.render (.text "2024-02-29T23:59:07.090000-00:00:00.500000") =
      .ok "at %2024 02M 23:59:07" := by
  have hpattern : stampSpec.pattern = some "%YYYY MMM HH:mm:ss" := rfl
  have hne : ("%YYYY MMM HH:mm:ss" : Text) ≠ [] := by decide
  have hiso : (Temporal.dateTime leapEvening).iso =
      "2024-02-29T23:59:07.090000-00:00:00.500000" := by
    decide +kernel
  have halike := (prints_iso_alike_iff hpattern hne (.dateTime leapEvening)).1.mpr nofun
  rw [hiso] at halike
  refine ⟨hpattern, hne, hiso, halike.trans ?_⟩
  decide +kernel

def halfPastTwo : TimeOfDay :=
  { TimeOfDay.midnight with
    hour := 14
    minute := 30
    hour_valid := by decide
    minute_valid := by decide }

/-- The field for the time of printing shows a time, but not the text of it, without seconds. -/
theorem time_printed_unlike_text : ∃ spec, Catalog.builtin.get? "print_time" = some spec ∧
    spec.render (.scalar (.time halfPastTwo)) = .ok "14:30" ∧
    (Temporal.time halfPastTwo).iso = "14:30:00" ∧
    spec.render (.text "14:30:00") = .ok "14:30:00" := by
  refine ⟨_, rfl, ?_⟩
  decide +kernel

namespace Temporal

/-- A pattern makes of a date or time what it says of the moment. -/
theorem prints_reading (v : Temporal) (hwhole : pattern.IsWhole)
    (hend : .char Iso.endMark ∉ pattern) (hyear : 1000 ≤ v.moment.date.year) :
    v.value.formatted? pattern = some (.ok (Pattern.reading v.moment pattern)) ∧
    ∀ spec : FieldSpec, spec.pattern = some pattern → pattern ≠ [] →
      spec.render v.value =
        .ok (spec.lead ++ Pattern.reading v.moment pattern ++ spec.trail) := by
  have hformatted : v.value.formatted? pattern = some (.ok (Pattern.reading v.moment pattern)) := by
    rw [v.formatted?_value, Pattern.format_eq_reading hwhole hend hyear]
  refine ⟨hformatted, fun spec hpattern hne => ?_⟩
  rw [FieldSpec.render_eq, FieldSpec.body_eq hpattern hne, hformatted]
  rfl

/-- Percent signs next to words, and runs of letters that are longer than a word. -/
theorem prints_reading_runs :
    Text.IsWhole "%%YYYYYY%mmm/MMM%DDD%d" ∧ .char Iso.endMark ∉ ("%%YYYYYY%mmm/MMM%DDD%d" : Text) ∧
    1000 ≤ (dateTime leapEvening).moment.date.year ∧
    (dateTime leapEvening).value.formatted? "%%YYYYYY%mmm/MMM%DDD%d" =
      some (.ok "%%202424%59m/02M%29D%d") := by
  have hwhole : Text.IsWhole "%%YYYYYY%mmm/MMM%DDD%d" := Text.isWhole_ofString _
  have hend : .char Iso.endMark ∉ ("%%YYYYYY%mmm/MMM%DDD%d" : Text) := by decide
  have hyear : 1000 ≤ (dateTime leapEvening).moment.date.year := by decide
  refine ⟨hwhole, hend, hyear, ?_⟩
  rw [(prints_reading (dateTime leapEvening) hwhole hend hyear).1]
  have hreading : Pattern.reading (dateTime leapEvening).moment "%%YYYYYY%mmm/MMM%DDD%d" =
      "%%202424%59m/02M%29D%d" := by decide +kernel
  rw [hreading]

end Temporal
end LabelPress
