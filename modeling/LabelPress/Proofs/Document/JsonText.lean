import LabelPress.Document.Text
import LabelPress.Proofs.Json.RoundTrip

/-!
# Designs through JSON texts

The JSON text of a design is written in ASCII, whatever characters its texts hold, and with any
indent the design is read back from it without a note and without a change.
-/

namespace LabelPress
namespace Json

theorem isPortable_ofText? {s : Option Text} (h : ∀ t ∈ s.toList, t.IsWhole) :
    IsPortable (.ofText? s) := by
  cases s with
  | none => exact .null
  | some t => exact .text (h t (List.mem_singleton_self t))

theorem isPortable_ofFields {fields : List (Text × Value)} (hkeys : (fields.map Prod.fst).Nodup)
    (h : ∀ field ∈ fields, field.1.IsWhole ∧ IsPortable field.2) : IsPortable (.ofFields fields) :=
  .mapping hkeys (fun field hfield => (h field hfield).1) fun field hfield => (h field hfield).2

theorem isPortable_field (name : String) {v : Value} (h : IsPortable v) :
    Text.IsWhole (name : Text) ∧ IsPortable v :=
  ⟨Text.isWhole_ofString name, h⟩

end Json

open Json

namespace Payload

def texts : Payload → List Text
  | barcode format value => format :: value.toList
  | qr value => value.toList
  | raster source => source.toList

theorem isPortable_toValue {p : Payload} (h : ∀ t ∈ p.texts, t.IsWhole) :
    IsPortable p.toValue := by
  have hword (word : String) : IsPortable (.text (word : Text)) :=
    .text (Text.isWhole_ofString word)
  cases p with
  | barcode format value =>
    obtain ⟨hformat, hvalue⟩ := List.forall_mem_cons.mp h
    refine isPortable_ofFields (by simp only [List.map]; decide) ?_
    simp only [List.forall_mem_cons]
    exact ⟨isPortable_field _ (hword _), isPortable_field _ (.text hformat),
      isPortable_field _ (isPortable_ofText? hvalue), List.forall_mem_nil _⟩
  | qr value =>
    refine isPortable_ofFields (by simp only [List.map]; decide) ?_
    simp only [List.forall_mem_cons]
    exact ⟨isPortable_field _ (hword _), isPortable_field _ (isPortable_ofText? h),
      List.forall_mem_nil _⟩
  | raster source =>
    refine isPortable_ofFields (by simp only [List.map]; decide) ?_
    simp only [List.forall_mem_cons]
    exact ⟨isPortable_field _ (hword _), isPortable_field _ (isPortable_ofText? h),
      List.forall_mem_nil _⟩

end Payload

namespace Element

def ownTexts : Element → List Text
  | text t => t.text :: t.fieldKey.toList
  | rectangle r => r.fill.toList
  | line _ => []
  | circle _ => []
  | media m => m.fieldKey.toList ++ m.payload.texts

def texts (e : Element) : List Text := e.stroke.toList ++ e.ownTexts

variable {e : Element} (hnumbers : ∀ n ∈ e.numbers, n.isNan = false)
include hnumbers

theorem isPortable_commonFields (hwhole : ∀ t ∈ e.stroke.toList, t.IsWhole) :
    ∀ field ∈ commonFields e.kind e.position e.stroke,
      field.1.IsWhole ∧ IsPortable field.2 := by
  have hposition : e.position.x.isNan = false ∧ e.position.y.isNan = false := by
    cases e <;> exact ⟨hnumbers _ (by simp [numbers, position]),
      hnumbers _ (by simp [numbers, position])⟩
  have hkind : e.kind.word.IsWhole := by cases e.kind <;> exact Text.isWhole_ofString _
  have hfirst := isPortable_field "kind" (.text hkind)
  have hx := isPortable_field "x" (.number hposition.1)
  have hy := isPortable_field "y" (.number hposition.2)
  cases hs : e.stroke with
  | none =>
    simp only [commonFields, List.forall_mem_cons]
    exact ⟨hfirst, hx, hy, List.forall_mem_nil _⟩
  | some s =>
    rw [hs] at hwhole
    have hstroke := isPortable_field "stroke" (.text (hwhole s (List.mem_singleton_self s)))
    simp only [commonFields, List.forall_mem_cons]
    exact ⟨hfirst, hx, hy, hstroke, List.forall_mem_nil _⟩

theorem isPortable_ownFields (hwhole : ∀ t ∈ e.ownTexts, t.IsWhole) :
    ∀ field ∈ e.ownFields, field.1.IsWhole ∧ IsPortable field.2 := by
  cases e with
  | text t =>
    obtain ⟨htext, hkey⟩ := List.forall_mem_cons.mp hwhole
    simp only [numbers, List.forall_mem_cons] at hnumbers
    obtain ⟨-, -, hsize, hangle, -⟩ := hnumbers
    simp only [ownFields, List.forall_mem_cons]
    exact ⟨isPortable_field _ (.text htext), isPortable_field _ (.number hsize),
      isPortable_field _ (.number hangle), isPortable_field _ (.bool _),
      isPortable_field _ (isPortable_ofText? hkey), List.forall_mem_nil _⟩
  | rectangle r =>
    simp only [numbers, List.forall_mem_cons] at hnumbers
    obtain ⟨-, -, hwidth, hheight, hstroke, -⟩ := hnumbers
    simp only [ownFields, List.forall_mem_cons]
    exact ⟨isPortable_field _ (.number hwidth), isPortable_field _ (.number hheight),
      isPortable_field _ (isPortable_ofText? hwhole), isPortable_field _ (.number hstroke),
      List.forall_mem_nil _⟩
  | line l =>
    simp only [numbers, List.forall_mem_cons] at hnumbers
    obtain ⟨-, -, hx, hy, hx', hy', hstroke, -⟩ := hnumbers
    have hpoints : IsPortable (.list [.number l.start.x, .number l.start.y, .number l.finish.x,
        .number l.finish.y]) := by
      refine .list ?_
      simp only [List.forall_mem_cons]
      exact ⟨.number hx, .number hy, .number hx', .number hy', List.forall_mem_nil _⟩
    simp only [ownFields, List.forall_mem_cons]
    exact ⟨isPortable_field _ hpoints, isPortable_field _ (.number hstroke), List.forall_mem_nil _⟩
  | circle c =>
    obtain ⟨hfixed, hradiusY⟩ := List.forall_mem_append.mp hnumbers
    simp only [List.forall_mem_cons] at hfixed
    obtain ⟨-, -, hradius, hstroke, -⟩ := hfixed
    have hsecond : IsPortable ((c.radiusY.map Value.number).getD .null) := by
      cases hr : c.radiusY with
      | none => exact .null
      | some r =>
        rw [hr] at hradiusY
        exact .number (hradiusY r (List.mem_singleton_self r))
    simp only [ownFields, List.forall_mem_cons]
    exact ⟨isPortable_field _ (.number hradius), isPortable_field _ hsecond,
      isPortable_field _ (.number hstroke), List.forall_mem_nil _⟩
  | media m =>
    obtain ⟨hkey, hpayload⟩ := List.forall_mem_append.mp hwhole
    simp only [numbers, List.forall_mem_cons] at hnumbers
    obtain ⟨-, -, hwidth, hheight, hangle, -⟩ := hnumbers
    simp only [ownFields, List.forall_mem_cons]
    exact ⟨isPortable_field _ (.number hwidth), isPortable_field _ (.number hheight),
      isPortable_field _ (.number hangle), isPortable_field _ (.bool _),
      isPortable_field _ (isPortable_ofText? hkey),
      isPortable_field _ (Payload.isPortable_toValue hpayload), List.forall_mem_nil _⟩

theorem isPortable_toValue (hwhole : ∀ t ∈ e.texts, t.IsWhole) : IsPortable e.toValue := by
  obtain ⟨hstroke, hown⟩ := List.forall_mem_append.mp hwhole
  exact isPortable_ofFields e.names_distinct.1 (List.forall_mem_append.mpr
    ⟨isPortable_commonFields hnumbers hstroke, isPortable_ownFields hnumbers hown⟩)

end Element

namespace Page

theorem isPortable_toValue (p : Page) : IsPortable p.toValue := by
  refine isPortable_ofFields (by simp only [List.map]; decide) ?_
  simp only [List.forall_mem_cons]
  exact ⟨isPortable_field _ (.number rfl), isPortable_field _ (.number rfl),
    isPortable_field _ (.number rfl), List.forall_mem_nil _⟩

end Page

namespace Design
variable {d : Design}

theorem isPortable_toValue (hnan : ¬d.HasNan)
    (hwhole : ∀ e ∈ d.elements, ∀ t ∈ e.texts, t.IsWhole) : IsPortable d.toValue := by
  have helements : IsPortable (.list (d.elements.map Element.toValue)) := by
    refine .list fun v hv => ?_
    obtain ⟨e, he, rfl⟩ := List.mem_map.mp hv
    refine Element.isPortable_toValue (fun n hn => ?_) (hwhole e he)
    by_contra hisNan
    exact hnan ⟨e, he, n, hn, Bool.eq_true_of_not_eq_false hisNan⟩
  refine isPortable_ofFields (by simp only [List.map]; decide) ?_
  simp only [List.forall_mem_cons]
  exact ⟨isPortable_field _ d.page.isPortable_toValue, isPortable_field _ helements,
    List.forall_mem_nil _⟩

/-- A design of texts without halves of characters, whose numbers all stand for a value and whose
barcodes all name their format, is read back as it was from its JSON text, on one line or with any
indent; and that text is written in ASCII. -/
theorem ofText_toJson [Host] (indent : Option Nat) {s : String} (hnan : ¬d.HasNan)
    (hformat : ∀ e ∈ d.elements, e.NamesFormat)
    (hwhole : ∀ e ∈ d.elements, ∀ t ∈ e.texts, t.IsWhole) (h : d.toJson indent = .ok s) :
    (∀ c ∈ s.toList, c.toNat < 128) ∧ ofText .json s = pure d := by
  obtain ⟨hascii, hparse⟩ := parse_render (isPortable_toValue hnan hwhole) h
  refine ⟨hascii, ?_⟩
  have hread : (DocumentFormat.json.parse s).mapError
      (ReadFault.toFault DocumentFormat.json.invalid) = .ok d.toValue := by
    rw [show DocumentFormat.json.parse s = _ from hparse]
    rfl
  rw [ofText, hread, Journaled.lift_ok, pure_bind, ofValue_written, withFormat_eq_self hformat]

end Design

def awkwardDesign : Design where
  page := tidyDesign.page
  elements := [
    .text { position := ⟨.real (.infinity true), .real (.ofRat (1 / 10))⟩
            text := "\"\\\x00\n\x7f", fieldKey := some "é€😀" },
    .media { position := ⟨0, 0⟩, payload := .barcode "ean13" none, stroke := some "" }]

section Examples
attribute [local instance] Host.plain

theorem ofText_toJson_awkward : ∃ s, awkwardDesign.toJson (some 1) = .ok s ∧
    (∀ c ∈ s.toList, c.toNat < 128) ∧ Design.ofText .json s = pure awkwardDesign := by
  have hwritten : (awkwardDesign.toJson (some 1)).isOk = true := by decide +kernel
  have hnan : ¬awkwardDesign.HasNan := by
    unfold Design.HasNan
    decide +kernel
  have hformat : ∀ e ∈ awkwardDesign.elements, e.NamesFormat := by
    refine List.forall_mem_cons.mpr ⟨trivial, List.forall_mem_singleton.mpr ?_⟩
    exact (by decide : ("ean13" : Text) ≠ [])
  have hwhole : ∀ e ∈ awkwardDesign.elements, ∀ t ∈ e.texts, t.IsWhole := by
    unfold Text.IsWhole
    decide +kernel
  obtain ⟨s, hs⟩ := exists_eq_ok hwritten
  exact ⟨s, hs, Design.ofText_toJson (some 1) hnan hformat hwhole hs⟩

end Examples

end LabelPress
