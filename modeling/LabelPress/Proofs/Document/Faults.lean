import LabelPress.Proofs.Document.Read
import LabelPress.Proofs.Geometry

/-!
# How the reading of a document fails

A document that cannot be taken in is refused: for its structure, or for its page. Two things go
past that. An integer may have too many digits to be shown, and a page may be given in a unit of
length by a size that cannot be turned into dots.
-/

namespace LabelPress
variable {α β : Type}

/-- The faults by which a document is refused. -/
def Fault.isRefusal : Fault → Bool
  | .design _ => true
  | .geometry _ _ => true
  | _ => false

/-- A computation has a result, or refuses the document, or lacks the text of an integer; the last
only if not all integers have one. -/
def Refuses (hasText : Bool) (x : Except Fault α) : Prop :=
  ∀ fault, x = .error fault →
    fault.isRefusal = true ∨ fault = .arithmetic .tooManyDigits ∧ hasText = false

namespace Refuses
variable {hasText : Bool}

theorem pure {a : α} : Refuses hasText (.ok a) := fun _ h => nomatch h

theorem throw {e : Fault} (he : e.isRefusal = true) :
    Refuses hasText (throw e : Except Fault α) := by
  intro fault h
  cases h
  exact Or.inl he

theorem bind {x : Except Fault α} {f : α → Except Fault β} (hx : Refuses hasText x)
    (hf : ∀ a, x = .ok a → Refuses hasText (f a)) : Refuses hasText (x >>= f) := by
  intro fault h
  rcases bind_eq_error.mp h with hfault | ⟨a, ha, hfault⟩
  · exact hx fault hfault
  · exact hf a ha fault hfault

theorem map {x : Except Fault α} {f : α → β} (hx : Refuses hasText x) :
    Refuses hasText (do return f (← x)) :=
  hx.bind fun _ _ => pure

theorem text {x : Except ArithmeticFault α} {b : Bool} (hx : FailsForDigits x b)
    (hb : hasText = true → b = true) : Refuses hasText (liftM x : Except Fault α) := by
  intro fault h
  cases x with
  | ok a => cases h
  | error e =>
    obtain ⟨rfl, rfl⟩ := hx e rfl
    cases h
    exact Or.inr ⟨rfl, by simpa using hb⟩

end Refuses

/-- Whatever fault ends a computation, it is none by which a document is refused. -/
def Escapes (x : Except Fault α) : Prop :=
  ∀ fault, x = .error fault → fault.isRefusal = false

namespace Escapes

theorem pure {a : α} : Escapes (.ok a) := fun _ h => nomatch h

theorem throw {e : Fault} (he : e.isRefusal = false) :
    Escapes (throw e : Except Fault α) := by
  intro fault h
  cases h
  exact he

theorem bind {x : Except Fault α} {f : α → Except Fault β} (hx : Escapes x)
    (hf : ∀ a, Escapes (f a)) : Escapes (x >>= f) := by
  intro fault h
  rcases bind_eq_error.mp h with hfault | ⟨a, -, hfault⟩
  · exact hx fault hfault
  · exact hf a fault hfault

theorem map {x : Except Fault α} {f : α → β} (hx : Escapes x) :
    Escapes (do return f (← x)) := hx.bind fun _ => pure

theorem arithmetic (x : Except ArithmeticFault α) : Escapes (liftM x : Except Fault α) := by
  intro fault h
  cases x with
  | ok a => cases h
  | error e =>
    cases h
    rfl

end Escapes

theorem Value.mustMap_refuses {hasText : Bool} (what : Text) (v : Value) :
    Refuses hasText (v.mustMap what) := by
  unfold mustMap
  split
  · exact .pure
  · exact .throw rfl

namespace Entries
variable {entries : Entries} {name : Text}

theorem hasText_of_get? {v : Value} (h : Entries.hasText entries = true)
    (hv : entries.get? name = some v) : v.hasText = true := by
  induction entries with
  | nil => cases hv
  | cons entry rest ih =>
    obtain ⟨k, w⟩ := entry
    rw [Entries.hasText, Bool.and_eq_true, Bool.and_eq_true] at h
    by_cases hk : k = .text name
    · subst hk
      rw [get?_cons_text, if_pos rfl] at hv
      cases hv
      exact h.1.2
    · rw [get?_cons_of_ne hk] at hv
      exact ih h.2 hv

theorem hasText_getD {default : Value} (h : Entries.hasText entries = true)
    (hdefault : default.hasText = true) (name : Text) :
    ((entries.get? name).getD default).hasText = true := by
  cases hv : entries.get? name with
  | none => exact hdefault
  | some v => exact hasText_of_get? h hv

end Entries

theorem Line.endsOf_refuses {v : Value} (hv : hasText = true → v.hasText = true) :
    Refuses hasText (Line.endsOf v) := by
  have hshown : Refuses hasText (do throw (.design (.points (← v.shown))) :
      Except Fault (Point × Point)) := by
    refine (Refuses.text (Value.shown_fails v) hv).bind fun _ _ => ?_
    exact .throw rfl
  unfold Line.endsOf
  split
  · exact .pure
  · split
    · exact .pure
    · exact hshown
  · exact hshown

section Fields
variable {hasText : Bool} {entries : Entries} (h : hasText = true → Entries.hasText entries = true)
include h

theorem Entries.optionalNumber_refuses (name : Text) :
    Refuses hasText (entries.optionalNumber name) := by
  unfold optionalNumber
  split
  · exact .pure
  · split
    · exact .pure
    · exact (Refuses.text (Value.shown_fails _) fun hb => hasText_getD (h hb) rfl name).bind
        fun _ _ => .throw rfl

theorem Entries.number_refuses (name : Text) (default : Number) :
    Refuses hasText (entries.number name default) :=
  (optionalNumber_refuses h name).map

theorem Entries.optionalText_refuses (name : Text) :
    Refuses hasText (entries.optionalText name) := by
  have hvalue : hasText = true → (entries.getOrNull name).hasText = true :=
    fun hb => hasText_getD (h hb) rfl name
  unfold optionalText
  split
  · exact .pure
  · split
    · refine (Refuses.text (Value.shown_fails _) hvalue).bind fun _ _ => ?_
      exact Refuses.bind (.throw rfl) fun _ h => nomatch h
    · exact (Refuses.text (Value.printed_fails _) hvalue).map

theorem Point.ofEntries_refuses : Refuses hasText (Point.ofEntries entries) :=
  (Entries.number_refuses h "x" 0).bind fun _ _ => (Entries.number_refuses h "y" 0).map

variable (position : Point) (stroke : Option Text)

theorem TextField.ofEntries_refuses : Refuses hasText (TextField.ofEntries position stroke entries) :=
  (Entries.optionalText_refuses h "text").bind fun _ _ =>
    (Entries.number_refuses h "font_size" 20).bind fun _ _ =>
      (Entries.number_refuses h "angle" 0).bind fun _ _ =>
        (Entries.optionalText_refuses h "field_key").map

theorem Rectangle.ofEntries_refuses :
    Refuses hasText (Rectangle.ofEntries position stroke entries) :=
  (Entries.number_refuses h "width" 0).bind fun _ _ =>
    (Entries.number_refuses h "height" 0).bind fun _ _ =>
      (Entries.optionalText_refuses h "fill").bind fun _ _ =>
        (Entries.number_refuses h "stroke_width" 1).map

theorem Line.ofEntries_refuses : Refuses hasText (Line.ofEntries position stroke entries) :=
  (Line.endsOf_refuses fun hb => Entries.hasText_getD (h hb) rfl "points").bind fun _ _ =>
    (Entries.number_refuses h "stroke_width" 1).map

theorem Circle.ofEntries_refuses : Refuses hasText (Circle.ofEntries position stroke entries) :=
  (Entries.number_refuses h "radius" 0).bind fun _ _ =>
    (Entries.optionalNumber_refuses h "radius_y").bind fun _ _ =>
      (Entries.number_refuses h "stroke_width" 1).map

end Fields

theorem Value.hasText_of_mustMap {v : Value} {what : Text} {entries : Entries}
    (hmap : v.mustMap what = .ok entries) (hv : v.hasText = true) :
    Entries.hasText entries = true := by
  have hhead := Value.hasText_head hv
  rw [Value.mustMap_eq_ok.mp hmap] at hhead
  exact hhead

section Values
variable {hasText : Bool} {v : Value} (hv : hasText = true → v.hasText = true)
include hv

theorem Payload.ofValue?_refuses : Refuses hasText (Payload.ofValue? v) := by
  unfold Payload.ofValue?
  split
  · exact .pure
  · refine (Value.mustMap_refuses "payload" v).bind fun entries hmap => ?_
    have h : hasText = true → Entries.hasText entries = true :=
      fun hb => Value.hasText_of_mustMap hmap (hv hb)
    split
    · exact (Entries.optionalText_refuses h "format").bind fun _ _ =>
        (Entries.optionalText_refuses h "value").map
    · exact (Entries.optionalText_refuses h "value").map
    · exact (Entries.optionalText_refuses h "source").map
    · exact .pure

end Values

theorem Media.ofEntries?_refuses {hasText : Bool} {entries : Entries}
    (h : hasText = true → Entries.hasText entries = true) (position : Point)
    (stroke : Option Text) : Refuses hasText (Media.ofEntries? position stroke entries) := by
  refine (Payload.ofValue?_refuses fun hb => Entries.hasText_getD (h hb) rfl "payload").bind
    fun payload _ => ?_
  cases payload with
  | none => exact .pure
  | some payload =>
    exact (Entries.number_refuses h "width" 100).bind fun _ _ =>
      (Entries.number_refuses h "height" 100).bind fun _ _ =>
        (Entries.number_refuses h "angle" 0).bind fun _ _ =>
          (Entries.optionalText_refuses h "field_key").map

theorem Element.ofValue?_refuses {hasText : Bool} {v : Value}
    (hv : hasText = true → v.hasText = true) : Refuses hasText (Element.ofValue? v) := by
  refine (Value.mustMap_refuses "element" v).bind fun entries hmap => ?_
  have h : hasText = true → Entries.hasText entries = true :=
    fun hb => Value.hasText_of_mustMap hmap (hv hb)
  refine (Point.ofEntries_refuses h).bind fun position _ => ?_
  refine (Entries.optionalText_refuses h "stroke").bind fun stroke _ => ?_
  split
  · exact .pure
  · exact (TextField.ofEntries_refuses h position stroke).map
  · exact (Rectangle.ofEntries_refuses h position stroke).map
  · exact (Line.ofEntries_refuses h position stroke).map
  · exact (Circle.ofEntries_refuses h position stroke).map
  · exact (Media.ofEntries?_refuses h position stroke).map

end LabelPress
