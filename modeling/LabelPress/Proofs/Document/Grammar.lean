import LabelPress.Proofs.Document.Accounting
import LabelPress.Proofs.Document.Faults

/-!
# What elements are written as

The fields of an element are numbers, texts, the ends of a line and a payload, each of which may be
left out. An element is refused exactly if one of the fields of its kind holds a value of another
type; fields of other kinds do not matter. Otherwise every field has its value or its default.
-/

namespace LabelPress
variable {α β : Type}

/-! ## Fields -/

inductive FieldType where
  | number
  | text
  | ends
  deriving DecidableEq

/-- Whether a value is of no use to a field of this type. -/
def FieldType.rejects : FieldType → Value → Bool
  | number, v => !v.isNull && v.number?.isNone
  | text, v => v.isCompound
  | ends, v => match v.head with
    | .null => false
    | .list [.number _, .number _, .number _, .number _] => false
    | _ => true

def Entries.anyBad (fields : List (Text × FieldType)) (entries : Entries) : Bool :=
  fields.any fun field => field.2.rejects (entries.getOrNull field.1)

def sharedFields : List (Text × FieldType) := [("x", .number), ("y", .number), ("stroke", .text)]

def ElementKind.fields : ElementKind → List (Text × FieldType)
  | text => [("text", .text), ("font_size", .number), ("angle", .number), ("field_key", .text)]
  | rectangle =>
    [("width", .number), ("height", .number), ("fill", .text), ("stroke_width", .number)]
  | line => [("points", .ends), ("stroke_width", .number)]
  | circle => [("radius", .number), ("radius_y", .number), ("stroke_width", .number)]
  | media => [("width", .number), ("height", .number), ("angle", .number), ("field_key", .text)]

def PayloadKind.fields : PayloadKind → List (Text × FieldType)
  | barcode => [("format", .text), ("value", .text)]
  | qr => [("value", .text)]
  | raster => [("source", .text)]

def Value.isMapping (v : Value) : Bool :=
  match v.head with
  | .mapping _ => true
  | _ => false

namespace Payload

def kindOf? (v : Value) : Option PayloadKind :=
  (v.entries.get? "type").elim (some .raster) PayloadKind.ofValue?

def rejects (v : Value) : Bool :=
  !v.isNull && (!v.isMapping || (kindOf? v).any fun k => v.entries.anyBad k.fields)

end Payload

def ElementKind.rejects (k : ElementKind) (entries : Entries) : Bool :=
  entries.anyBad (sharedFields ++ k.fields) ||
    k == .media && Payload.rejects (entries.getOrNull "payload")

/-! ## What the fields describe -/

namespace Entries

def numberOr (name : Text) (default : Number) (entries : Entries) : Number :=
  (entries.getOrNull name).number?.getD default

def text? (name : Text) (entries : Entries) : Option Text :=
  match entries.getOrNull name with
  | .null => none
  | v => v.printed.toOption

end Entries

section Described
variable (position : Point) (stroke : Option Text) (entries : Entries)

def TextField.described : TextField :=
  let blank : TextField := { position }
  { position, stroke
    text := (entries.text? "text").getD blank.text
    fontSize := entries.numberOr "font_size" blank.fontSize
    angle := entries.numberOr "angle" blank.angle
    isDynamic := entries.flag "is_dynamic" blank.isDynamic
    fieldKey := entries.text? "field_key" }

def Rectangle.described : Rectangle :=
  let blank : Rectangle := { position, width := 0, height := 0 }
  { position, stroke
    width := entries.numberOr "width" blank.width
    height := entries.numberOr "height" blank.height
    fill := entries.text? "fill"
    strokeWidth := entries.numberOr "stroke_width" blank.strokeWidth }

def Line.describedEnds (v : Value) : Point × Point :=
  match v.head with
  | .list [.number x₁, .number y₁, .number x₂, .number y₂] => (⟨x₁, y₁⟩, ⟨x₂, y₂⟩)
  | _ => (⟨0, 0⟩, ⟨100, 0⟩)

def Line.described : Line :=
  let blank : Line := { position }
  { position, stroke
    start := (describedEnds (entries.getOrNull "points")).1
    finish := (describedEnds (entries.getOrNull "points")).2
    strokeWidth := entries.numberOr "stroke_width" blank.strokeWidth }

def Circle.described : Circle :=
  let blank : Circle := { position, radius := 0 }
  { position, stroke
    radius := entries.numberOr "radius" blank.radius
    radiusY := (entries.getOrNull "radius_y").number?
    strokeWidth := entries.numberOr "stroke_width" blank.strokeWidth }

def PayloadKind.described (k : PayloadKind) : Payload :=
  match k with
  | barcode => .barcode (Payload.formatName (entries.text? "format")) (entries.text? "value")
  | qr => .qr (entries.text? "value")
  | raster => .raster (entries.text? "source")

def Payload.described (v : Value) : Payload := ((kindOf? v).getD .raster).described v.entries

def Media.described : Media :=
  let blank : Media := { position, payload := .raster none }
  { position, stroke
    payload := .described (entries.getOrNull "payload")
    width := entries.numberOr "width" blank.width
    height := entries.numberOr "height" blank.height
    angle := entries.numberOr "angle" blank.angle
    isDynamic := entries.flag "is_dynamic" blank.isDynamic
    fieldKey := entries.text? "field_key" }

end Described

namespace ElementKind

/-- The element of a kind that entries describe. -/
def described (k : ElementKind) (entries : Entries) : Element :=
  let position : Point := ⟨entries.numberOr "x" 0, entries.numberOr "y" 0⟩
  let stroke := entries.text? "stroke"
  match k with
  | text => .text (.described position stroke entries)
  | rectangle => .rectangle (.described position stroke entries)
  | line => .line (.described position stroke entries)
  | circle => .circle (.described position stroke entries)
  | media => .media (.described position stroke entries)

/-- The element of a kind in which nothing is given: sizes without a default are zero. -/
def blank : ElementKind → Element
  | text => .text { position := {} }
  | rectangle => .rectangle { position := {}, width := 0, height := 0 }
  | line => .line { position := {} }
  | circle => .circle { position := {}, radius := 0 }
  | media => .media { position := {}, payload := .raster none }

/-- Without entries, every field has its default. -/
theorem described_nil_agrees (k : ElementKind) :
    (k.described []).agrees Number.same k.blank = true := by
  cases k <;> decide +kernel

end ElementKind

/-! ## Readers -/

/-- A reader refuses what is bad, and makes something of everything else. -/
inductive Decides : Bool → α → Except Fault α → Prop
  | refuses (a : α) (fault : DesignFault) : Decides true a (.error (.design fault))
  | accepts (a : α) : Decides false a (.ok a)

namespace Decides
variable {bad bad' : Bool} {a : α} {b : β} {x : Except Fault α} {f : α → Except Fault β}

theorem bind (hx : Decides bad a x) (hf : Decides bad' b (f a)) :
    Decides (bad || bad') b (x >>= f) := by
  cases hx with
  | refuses a fault => exact .refuses b fault
  | accepts a => exact hf

theorem map (hx : Decides bad a x) (f : α → β) : Decides bad (f a) (do return f (← x)) := by
  cases hx with
  | refuses a fault => exact .refuses (f a) fault
  | accepts a => exact .accepts (f a)

theorem exists_fault_iff (hx : Decides bad a x) :
    (∃ fault, x = .error (.design fault)) ↔ bad = true := by
  cases hx with
  | refuses a fault => exact iff_of_true ⟨fault, rfl⟩ rfl
  | accepts a => exact iff_of_false (fun ⟨_, h⟩ => nomatch h) Bool.false_ne_true

theorem eq_ok (hx : Decides bad a x) (hbad : bad = false) : x = .ok a := by
  cases hx with
  | refuses a fault => cases hbad
  | accepts a => rfl

/-- The reading of a field, before that of others. -/
theorem field {name : Text} {type : FieldType} {fields : List (Text × FieldType)}
    {entries : Entries} (hx : Decides (type.rejects (entries.getOrNull name)) a x)
    (hf : Decides (entries.anyBad fields) b (f a)) :
    Decides (entries.anyBad ((name, type) :: fields)) b (x >>= f) := hx.bind hf

end Decides

theorem FailsForDigits.exists_ok {x : Except ArithmeticFault α} {hasText : Bool}
    (hx : FailsForDigits x hasText) (h : hasText = true) : ∃ a, x = .ok a := by
  cases x with
  | ok a => exact ⟨a, rfl⟩
  | error e =>
    rw [(hx e rfl).2] at h
    cases h

theorem Value.isNull_eq_false {v : Value} (h : v ≠ .null) : v.isNull = false := by
  unfold isNull
  split
  · exact absurd rfl h
  · rfl

theorem Value.mustMap_decides (what : Text) (v : Value) :
    Decides (!v.isMapping) v.entries (v.mustMap what) := by
  unfold isMapping entries mustMap
  cases v.head with
  | mapping entries => exact .accepts _
  | _ => exact .refuses _ _

theorem Value.hasText_entries {v : Value} (h : v.hasText = true) :
    Entries.hasText v.entries = true := by
  have hhead := hasText_head h
  unfold entries
  split
  · next hentries => rwa [hentries] at hhead
  · rfl

namespace Entries
variable {entries : Entries} (h : Entries.hasText entries = true)
include h

theorem optionalNumber_decides (name : Text) :
    Decides (FieldType.number.rejects (entries.getOrNull name)) (entries.getOrNull name).number?
      (entries.optionalNumber name) := by
  have htext : (entries.getOrNull name).hasText = true := hasText_getD h rfl name
  obtain ⟨shown, hshown⟩ := (Value.shown_fails _).exists_ok htext
  unfold optionalNumber
  split
  · next hnull =>
    rw [hnull]
    exact .accepts none
  · next hne =>
    have hnull := Value.isNull_eq_false hne
    split
    · next n hn =>
      simp only [FieldType.rejects, hn, Option.isNone_some, Bool.and_false]
      exact .accepts (some n)
    · next hnone =>
      simp only [FieldType.rejects, hnone, hnull, hshown]
      exact .refuses none _

theorem number_decides (name : Text) (default : Number) :
    Decides (FieldType.number.rejects (entries.getOrNull name)) (entries.numberOr name default)
      (entries.number name default) :=
  (optionalNumber_decides h name).map fun n => n.getD default

theorem optionalText_decides (name : Text) :
    Decides (FieldType.text.rejects (entries.getOrNull name)) (entries.text? name)
      (entries.optionalText name) := by
  have htext : (entries.getOrNull name).hasText = true := hasText_getD h rfl name
  obtain ⟨shown, hshown⟩ := (Value.shown_fails _).exists_ok htext
  obtain ⟨printed, hprinted⟩ := (Value.printed_fails _).exists_ok htext
  unfold optionalText text?
  split
  · next hnull =>
    simp only [hnull]
    exact .accepts none
  · next hne =>
    cases hcompound : (entries.getOrNull name).isCompound with
    | true =>
      simp only [FieldType.rejects, hcompound, hshown]
      exact .refuses _ _
    | false =>
      simp only [FieldType.rejects, hcompound, hprinted]
      exact .accepts (some printed)

end Entries

theorem FieldType.rejects_ends {v : Value} (hnull : v.head ≠ .null)
    (hnumbers : ∀ x₁ y₁ x₂ y₂, v.head ≠ .list [.number x₁, .number y₁, .number x₂, .number y₂]) :
    ends.rejects v = true := by
  unfold rejects
  dsimp only
  split
  · next h => exact absurd h hnull
  · next h => exact absurd h (hnumbers _ _ _ _)
  · rfl

theorem Line.endsOf_decides {v : Value} (hv : v.hasText = true) :
    Decides (FieldType.ends.rejects v) (describedEnds v) (endsOf v) := by
  obtain ⟨shown, hshown⟩ := (Value.shown_fails v).exists_ok hv
  unfold endsOf
  split
  · next hnull =>
    simp only [FieldType.rejects, describedEnds, hnull]
    exact .accepts _
  · next a b c d hlist =>
    split
    · next hx₁ hy₁ hx₂ hy₂ =>
      obtain rfl := Value.number?_eq_some.mp hx₁
      obtain rfl := Value.number?_eq_some.mp hy₁
      obtain rfl := Value.number?_eq_some.mp hx₂
      obtain rfl := Value.number?_eq_some.mp hy₂
      simp only [FieldType.rejects, describedEnds, hlist]
      exact .accepts _
    · next hnone =>
      rw [FieldType.rejects_ends (by simp [hlist]), hshown]
      · exact .refuses _ _
      · intro x₁ y₁ x₂ y₂ hnumbers
        rw [hlist] at hnumbers
        cases hnumbers
        exact hnone _ _ _ _ rfl rfl rfl rfl
  · next hnull hlist =>
    rw [FieldType.rejects_ends hnull fun _ _ _ _ => hlist _ _ _ _, hshown]
    exact .refuses _ _

section Elements
variable {entries : Entries} (h : Entries.hasText entries = true)
include h

theorem Point.ofEntries_decides : Decides (entries.anyBad [("x", .number), ("y", .number)])
    ⟨entries.numberOr "x" 0, entries.numberOr "y" 0⟩ (ofEntries entries) := by
  apply (Entries.number_decides h "x" 0).field
  apply (Entries.number_decides h "y" 0).field
  exact .accepts _

variable (position : Point) (stroke : Option Text)

theorem TextField.ofEntries_decides : Decides (entries.anyBad ElementKind.text.fields)
    (described position stroke entries) (ofEntries position stroke entries) := by
  apply (Entries.optionalText_decides h "text").field
  apply (Entries.number_decides h "font_size" 20).field
  apply (Entries.number_decides h "angle" 0).field
  apply (Entries.optionalText_decides h "field_key").field
  exact .accepts _

theorem Rectangle.ofEntries_decides : Decides (entries.anyBad ElementKind.rectangle.fields)
    (described position stroke entries) (ofEntries position stroke entries) := by
  apply (Entries.number_decides h "width" 0).field
  apply (Entries.number_decides h "height" 0).field
  apply (Entries.optionalText_decides h "fill").field
  apply (Entries.number_decides h "stroke_width" 1).field
  exact .accepts _

theorem Line.ofEntries_decides : Decides (entries.anyBad ElementKind.line.fields)
    (described position stroke entries) (ofEntries position stroke entries) := by
  apply (Line.endsOf_decides (Entries.hasText_getD h rfl "points")).field
  apply (Entries.number_decides h "stroke_width" 1).field
  exact .accepts _

theorem Circle.ofEntries_decides : Decides (entries.anyBad ElementKind.circle.fields)
    (described position stroke entries) (ofEntries position stroke entries) := by
  apply (Entries.number_decides h "radius" 0).field
  apply (Entries.optionalNumber_decides h "radius_y").field
  apply (Entries.number_decides h "stroke_width" 1).field
  exact .accepts _

end Elements

namespace Payload

theorem exists_kindOf? {v : Value} (h : ¬IsOfUnknownType v) : ∃ k, kindOf? v = some k := by
  rw [isOfUnknownType_iff] at h
  unfold kindOf?
  cases htype : v.entries.get? "type" with
  | none => exact ⟨.raster, rfl⟩
  | some type =>
    rw [htype, Option.any_some, Option.isNone_iff_eq_none] at h
    exact Option.ne_none_iff_exists'.mp h

theorem ofValue?_decides {v : Value} (hv : v.hasText = true) (hknown : ¬IsOfUnknownType v) :
    Decides (rejects v) (some (described v)) (ofValue? v) := by
  obtain ⟨k, hk⟩ := exists_kindOf? hknown
  unfold ofValue?
  split
  · exact .accepts _
  · next hne =>
    have h := Value.hasText_entries hv
    rw [rejects, Value.isNull_eq_false hne, described, hk]
    apply (Value.mustMap_decides "payload" v).bind
    rw [kindOf?] at hk
    rw [hk]
    cases k with
    | barcode =>
      apply (Entries.optionalText_decides h "format").field
      apply (Entries.optionalText_decides h "value").field
      exact .accepts _
    | qr =>
      apply (Entries.optionalText_decides h "value").field
      exact .accepts _
    | raster =>
      apply (Entries.optionalText_decides h "source").field
      exact .accepts _

end Payload

theorem Media.ofEntries?_decides {entries : Entries} (h : Entries.hasText entries = true)
    (hknown : ¬Payload.IsOfUnknownType (entries.getOrNull "payload")) (position : Point)
    (stroke : Option Text) :
    Decides (Payload.rejects (entries.getOrNull "payload") || entries.anyBad ElementKind.media.fields)
      (some (described position stroke entries)) (ofEntries? position stroke entries) := by
  apply (Payload.ofValue?_decides (Entries.hasText_getD h rfl "payload") hknown).bind
  apply (Entries.number_decides h "width" 100).field
  apply (Entries.number_decides h "height" 100).field
  apply (Entries.number_decides h "angle" 0).field
  apply (Entries.optionalText_decides h "field_key").field
  exact .accepts _

theorem Element.ofValue?_decides {v : Value} {entries : Entries} {k : ElementKind}
    (hentries : v.head = .mapping entries) (hv : v.hasText = true)
    (hkind : entries.getOrNull "kind" = .text k.word)
    (hknown : k = .media → ¬Payload.IsOfUnknownType (entries.getOrNull "payload")) :
    Decides (k.rejects entries) (some (k.described entries)) (ofValue? v) := by
  have hmap : v.mustMap "element" = .ok entries := Value.mustMap_eq_ok.mpr hentries
  have h := Value.hasText_of_mustMap hmap hv
  -- The grammar in the order of the readers: position, stroke, payload, and the other fields.
  have hbad : k.rejects entries = (entries.anyBad [("x", .number), ("y", .number)] ||
      (FieldType.text.rejects (entries.getOrNull "stroke") ||
        (k == .media && Payload.rejects (entries.getOrNull "payload") ||
          entries.anyBad k.fields))) := by
    rw [ElementKind.rejects, Entries.anyBad, List.any_append, Bool.or_assoc,
      Bool.or_comm (k.fields.any _)]
    simp only [sharedFields, Entries.anyBad, List.any_cons, List.any_nil, Bool.or_false,
      Bool.or_assoc]
  rw [hbad, ofValue?, hmap]
  apply (Decides.accepts entries).bind
  apply (Point.ofEntries_decides h).bind
  apply (Entries.optionalText_decides h "stroke").bind
  rw [hkind, ElementKind.ofValue?_word]
  cases k with
  | text => exact (TextField.ofEntries_decides h _ _).map fun t => some (Element.text t)
  | rectangle => exact (Rectangle.ofEntries_decides h _ _).map fun r => some (Element.rectangle r)
  | line => exact (Line.ofEntries_decides h _ _).map fun l => some (Element.line l)
  | circle => exact (Circle.ofEntries_decides h _ _).map fun c => some (Element.circle c)
  | media => exact (Media.ofEntries?_decides h (hknown rfl) _ _).map (Option.map Element.media)

/-- An element of a known kind is refused exactly if a field of its kind is bad, unless the type of
its payload is unknown. Otherwise it is what its fields describe, where each has its default if it
is left out. -/
theorem Element.refused_iff_rejected {v : Value} {entries : Entries} {k : ElementKind}
    (hentries : v.head = .mapping entries) (hv : v.hasText = true)
    (hkind : entries.getOrNull "kind" = .text k.word)
    (hknown : k = .media → ¬Payload.IsOfUnknownType (entries.getOrNull "payload")) :
    ((∃ fault, ofValue? v = .error (.design fault)) ↔ k.rejects entries = true) ∧
      (k.rejects entries = false → ofValue? v = .ok (some (k.described entries))) ∧
      (k.described []).agrees Number.same k.blank = true := by
  have hread := ofValue?_decides hentries hv hkind hknown
  exact ⟨hread.exists_fault_iff, hread.eq_ok, k.described_nil_agrees⟩

/-- A QR code of a truth value, with fields in it and in its payload that belong to other kinds. -/
def foreignFields : Entries := .ofFields [("kind", .text "media"), ("x", .number 5),
  ("payload", .ofFields [("type", .text "qrcode"), ("value", .bool true), ("source", .list [])]),
  ("width", .null), ("radius", .list [])]

theorem foreignFields_accepted : (Value.mapping foreignFields).hasText = true ∧
    ElementKind.media.described foreignFields =
      .media { position := ⟨5, 0⟩, payload := .qr (some "True") } ∧
    ¬(∃ fault, Element.ofValue? (.mapping foreignFields) = .error (.design fault)) ∧
    Element.ofValue? (.mapping foreignFields) =
      .ok (some (ElementKind.media.described foreignFields)) := by
  have htext : (Value.mapping foreignFields).hasText = true := by decide +kernel
  have hgood : ElementKind.media.rejects foreignFields = false := by decide +kernel
  obtain ⟨hrefused, haccepted, -⟩ := Element.refused_iff_rejected
    (v := .mapping foreignFields) (k := .media) rfl htext rfl fun _ => by decide +kernel
  exact ⟨htext, by decide +kernel, by rw [hrefused, hgood]; decide, haccepted hgood⟩

end LabelPress
