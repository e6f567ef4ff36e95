import LabelPress.Document.Write
import LabelPress.Label.Target
import LabelPress.Proofs.Document.Read

/-!
# Designs through documents

A design written as a document and read back is the same design, but for one thing: a barcode whose
format is empty comes back with the name of the default format, for which an empty format stands
anyway. So the design that comes back is compiled as the first one is.
-/

namespace LabelPress

def Payload.withFormat : Payload → Payload
  | barcode format value => barcode (formatName (some format)) value
  | p => p

def Element.withFormat : Element → Element
  | media m => media { m with payload := m.payload.withFormat }
  | e => e

/-- The design with the default format in the place of every empty one. -/
def Design.withFormat (d : Design) : Design :=
  { d with elements := d.elements.map Element.withFormat }

theorem positive?_natCast {n : Nat} (hn : 0 < n) : positive? n = some ⟨n, hn⟩ := by
  have hpos : (0 : Int) < n := by omega
  exact dif_pos hpos

namespace Page

theorem positive_natCast {field : Text} {n : Nat} (hn : 0 < n) :
    positive field (.number (.int n)) = .ok ⟨n, hn⟩ := by
  simp only [positive, positive?_natCast hn]
  rfl

theorem ofValue_written (p : Page) : ofValue p.toValue = .ok p := by
  have hholds : p.toValue.entries.Holds [
      ("dpi", .number (.int p.dpi)),
      ("width_dots", .number (.int p.width)),
      ("height_dots", .number (.int p.height))] :=
    Entries.holds_ofFields (by simp only [List.map]; decide)
  simp only [Entries.holds_cons] at hholds
  obtain ⟨hdpi, hwidth, hheight, -⟩ := hholds
  have hmap : p.toValue.mustMap "page" = .ok p.toValue.entries := rfl
  have hdots : ofFields (.number (.int p.dpi)) (.number (.int p.width)) (.number (.int p.height)) =
      .ok p := by
    simp only [ofFields, positive_natCast p.dpi_pos, positive_natCast p.width_pos,
      positive_natCast p.height_pos]
    rfl
  simp only [ofValue, hmap, bind, Except.bind, hdpi, hwidth, hheight, Option.getD_some,
    Entries.has_of_get? hwidth, Bool.true_or, if_true, hdots]

end Page

theorem TextField.ofEntries_of_holds {t : TextField} {entries : Entries}
    (h : entries.Holds (Element.text t).ownFields) :
    ofEntries t.position t.stroke entries = .ok t := by
  simp only [Element.ownFields, Entries.holds_cons] at h
  obtain ⟨htext, hsize, hangle, hdynamic, hkey, -⟩ := h
  have htext' := Entries.optionalText_of_get? (s := some t.text) htext
  simp only [ofEntries, htext', Entries.number_of_get? hsize,
    Entries.number_of_get? hangle, Entries.optionalText_of_get? hkey, Entries.flag_of_get? hdynamic]
  rfl

theorem Rectangle.ofEntries_of_holds {r : Rectangle} {entries : Entries}
    (h : entries.Holds (Element.rectangle r).ownFields) :
    ofEntries r.position r.stroke entries = .ok r := by
  simp only [Element.ownFields, Entries.holds_cons] at h
  obtain ⟨hwidth, hheight, hfill, hstroke, -⟩ := h
  simp only [ofEntries, Entries.number_of_get? hwidth, Entries.number_of_get? hheight,
    Entries.optionalText_of_get? hfill, Entries.number_of_get? hstroke]
  rfl

theorem Line.ofEntries_of_holds {l : Line} {entries : Entries}
    (h : entries.Holds (Element.line l).ownFields) :
    ofEntries l.position l.stroke entries = .ok l := by
  simp only [Element.ownFields, Entries.holds_cons] at h
  obtain ⟨hpoints, hstroke, -⟩ := h
  simp only [ofEntries, Entries.getOrNull_of_get? hpoints, Entries.number_of_get? hstroke]
  rfl

theorem Circle.ofEntries_of_holds {c : Circle} {entries : Entries}
    (h : entries.Holds (Element.circle c).ownFields) :
    ofEntries c.position c.stroke entries = .ok c := by
  simp only [Element.ownFields, Entries.holds_cons] at h
  obtain ⟨hradius, hradiusY, hstroke, -⟩ := h
  simp only [ofEntries, Entries.number_of_get? hradius, Entries.optionalNumber_of_get? hradiusY,
    Entries.number_of_get? hstroke]
  rfl

theorem Payload.ofValue?_written (p : Payload) : ofValue? p.toValue = .ok (some p.withFormat) := by
  cases p with
  | barcode format value => cases value <;> rfl
  | qr value => cases value <;> rfl
  | raster source => cases source <;> rfl

theorem Media.ofEntries?_of_holds {m : Media} {entries : Entries}
    (h : entries.Holds (Element.media m).ownFields) :
    ofEntries? m.position m.stroke entries =
      .ok (some { m with payload := m.payload.withFormat }) := by
  simp only [Element.ownFields, Entries.holds_cons] at h
  obtain ⟨hwidth, hheight, hangle, hdynamic, hkey, hpayload, -⟩ := h
  simp only [ofEntries?, Entries.getOrNull_of_get? hpayload, Payload.ofValue?_written,
    Entries.number_of_get? hwidth, Entries.number_of_get? hheight, Entries.number_of_get? hangle,
    Entries.optionalText_of_get? hkey, Entries.flag_of_get? hdynamic]
  rfl

namespace Element

def fields (e : Element) : List (Text × Value) :=
  commonFields e.kind e.position e.stroke ++ e.ownFields

/-- No name is written twice, and the stroke colour has a name only where there is one. -/
theorem names_distinct (e : Element) :
    (e.fields.map Prod.fst).Nodup ∧
      (e.stroke = none → ("stroke" : Text) ∉ e.fields.map Prod.fst) := by
  obtain ⟨s, hs⟩ : ∃ s, e.stroke = s := ⟨_, rfl⟩
  cases e <;> cases s <;>
    simp only [fields, commonFields, ownFields, hs, List.map_cons, List.map_nil, List.cons_append,
      List.nil_append, reduceCtorEq, false_implies, and_true, true_implies] <;>
    decide

theorem holds_written (e : Element) : e.toValue.entries.Holds e.fields :=
  Entries.holds_ofFields (names_distinct e).1

theorem common_written (e : Element) :
    e.toValue.entries.get? "kind" = some (.text e.kind.word) ∧
      e.toValue.entries.get? "x" = some (.number e.position.x) ∧
      e.toValue.entries.get? "y" = some (.number e.position.y) := by
  have hholds := (Entries.holds_append.mp (holds_written e)).1
  simp only [commonFields, Entries.holds_cons] at hholds
  obtain ⟨hkind, hx, hy, -⟩ := hholds
  exact ⟨hkind, hx, hy⟩

theorem position_written (e : Element) : Point.ofEntries e.toValue.entries = .ok e.position := by
  obtain ⟨-, hx, hy⟩ := common_written e
  simp only [Point.ofEntries, Entries.number_of_get? hx, Entries.number_of_get? hy]
  rfl

theorem stroke_written (e : Element) :
    e.toValue.entries.optionalText "stroke" = .ok e.stroke := by
  cases hs : e.stroke with
  | none =>
    exact Entries.optionalText_of_get?_eq_none
      (Entries.get?_ofFields_eq_none ((names_distinct e).2 hs))
  | some s =>
    have hholds := (Entries.holds_append.mp (holds_written e)).1
    simp only [commonFields, hs, Entries.holds_cons] at hholds
    obtain ⟨-, -, -, hstroke, -⟩ := hholds
    exact Entries.optionalText_of_get? (s := some s) hstroke

theorem kind_written (e : Element) :
    ElementKind.ofValue? (e.toValue.entries.getOrNull "kind") = some e.kind := by
  rw [Entries.getOrNull_of_get? (common_written e).1]
  cases e.kind <;> rfl

theorem ofValue?_written (e : Element) : ofValue? e.toValue = .ok (some e.withFormat) := by
  have hown := (Entries.holds_append.mp (holds_written e)).2
  have hmap : e.toValue.mustMap "element" = .ok e.toValue.entries := rfl
  simp only [ofValue?, hmap, position_written, stroke_written, kind_written, bind, Except.bind]
  cases e with
  | text t => simp only [kind, position, stroke, TextField.ofEntries_of_holds hown]; rfl
  | rectangle r => simp only [kind, position, stroke, Rectangle.ofEntries_of_holds hown]; rfl
  | line l => simp only [kind, position, stroke, Line.ofEntries_of_holds hown]; rfl
  | circle c => simp only [kind, position, stroke, Circle.ofEntries_of_holds hown]; rfl
  | media m => simp only [kind, position, stroke, Media.ofEntries?_of_holds hown]; rfl

end Element

section Compile
variable (bindings : Entries)

/-- The default format can be printed, so that an empty one is never noted as dropped. -/
theorem Symbology.ofName?_defaultFormat : ofName? Payload.defaultFormat = some .code128 := by
  decide +kernel

theorem Media.commands_withFormat (m : Media) (catalog : Option Catalog) :
    ({ m with payload := m.payload.withFormat } : Media).commands bindings catalog =
      m.commands bindings catalog := by
  obtain ⟨position, payload, width, height, angle, isDynamic, fieldKey, stroke⟩ := m
  cases payload with
  | barcode format value =>
    cases format with
    | nil =>
      have hempty : Payload.formatName (some []) = Payload.defaultFormat := rfl
      have hdefault : Payload.formatName (some Payload.defaultFormat) = Payload.defaultFormat := rfl
      simp only [commands, Payload.withFormat, hempty, hdefault, Symbology.ofName?_defaultFormat]
      rfl
    | cons c rest => rfl
  | qr value => rfl
  | raster source => rfl

theorem Target.encode_withFormat (t : Target) (e : Element) :
    t.encode bindings e.withFormat = t.encode bindings e := by
  cases e with
  | media m =>
    simp only [encode, Element.withFormat, Element.commands, Media.commands_withFormat]
    rfl
  | _ => rfl

theorem Target.compile_withFormat (t : Target) (d : Design) :
    t.compile bindings d.withFormat = t.compile bindings d := by
  have hencode : t.encode bindings ∘ Element.withFormat = t.encode bindings :=
    funext (encode_withFormat bindings t)
  simp only [compile, assemble, Design.withFormat, Journaled.forEach_map, hencode, List.length_map]

end Compile

theorem Design.ofValue_written (default : Option Page) (d : Design) :
    ofValue default d.toValue = pure d.withFormat := by
  have hholds : d.toValue.entries.Holds [
      ("page", d.page.toValue), ("elements", .list (d.elements.map Element.toValue))] :=
    Entries.holds_ofFields (by simp only [List.map]; decide)
  simp only [Entries.holds_cons] at hholds
  obtain ⟨hsection, helements, -⟩ := hholds
  have hpage : Page.ofDocument d.toValue.entries default .noPage = .ok d.page := by
    simp only [Page.ofDocument, hsection, Page.ofValue_written]
  have hmap : d.toValue.mustMap "design" = .ok d.toValue.entries := rfl
  have hread : List.Forall₂ (fun v e => Element.ofValue? v = .ok (some e))
      (d.elements.map Element.toValue) (d.elements.map Element.withFormat) := by
    rw [List.forall₂_map_left_iff, List.forall₂_map_right_iff, List.forall₂_same]
    exact fun e _ => Element.ofValue?_written e
  simp only [ofValue, hmap, Journaled.lift_ok, pure_bind, hpage,
    Entries.getOrNull_of_get? helements, entriesOf_list, Element.readAll_eq_pure hread]
  rfl

/-- A design written as a document is read back without a note, whatever the default page, as the
same design with the default format in the place of every empty one; and that one is compiled as the
first is, to the same label or the same fault. -/
theorem Design.document_keeps_what_prints (d : Design) :
    (∀ default, Design.ofValue default d.toValue = pure d.withFormat) ∧
      ∀ (t : Target) (bindings : Entries),
        t.compile bindings d.withFormat = t.compile bindings d :=
  ⟨fun default => ofValue_written default d, fun t bindings => t.compile_withFormat bindings d⟩

end LabelPress
