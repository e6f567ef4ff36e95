import LabelPress.Canvas.Design
import LabelPress.Handmade.Item
import LabelPress.Proofs.Document.RoundTrip

/-!
# Designs that have been taken in

Documents and canvases hold values of any types, and their readers differ: one refuses a value of
the wrong type, the other puts a default in its place. What both make has fields of the declared
types only, and names a format for every barcode. So it can be written as a document and read back
without change.
-/

namespace LabelPress

namespace Payload

def NamesFormat : Payload → Prop
  | barcode format _ => format ≠ []
  | _ => True

theorem formatName_ne_nil (name : Option Text) : formatName name ≠ [] := by
  have hdefault : defaultFormat ≠ [] := by decide
  cases name with
  | none => exact hdefault
  | some s =>
    cases s with
    | nil => exact hdefault
    | cons c rest => exact List.cons_ne_nil c rest

theorem withFormat_eq_self {p : Payload} (h : p.NamesFormat) : p.withFormat = p := by
  cases p with
  | barcode format value =>
    cases format with
    | nil => exact absurd rfl h
    | cons c rest => rfl
  | _ => rfl

theorem namesFormat_of_ofValue? {v : Value} {p : Payload} (h : ofValue? v = .ok (some p)) :
    p.NamesFormat := by
  unfold ofValue? at h
  split at h
  · cases h
    trivial
  · obtain ⟨entries, -, h⟩ := bind_eq_ok.mp h
    split at h
    · obtain ⟨format, -, h⟩ := bind_eq_ok.mp h
      obtain ⟨value, -, h⟩ := bind_eq_ok.mp h
      cases h
      exact formatName_ne_nil format
    · obtain ⟨value, -, h⟩ := bind_eq_ok.mp h
      cases h
      trivial
    · obtain ⟨source, -, h⟩ := bind_eq_ok.mp h
      cases h
      trivial
    · cases h

theorem namesFormat_of_canvas {entries data : Entries} {p : Payload}
    (h : Canvas.Frame.payload entries data = .ok p) : p.NamesFormat := by
  unfold Canvas.Frame.payload at h
  split at h
  · obtain ⟨format, -, h⟩ := bind_eq_ok.mp h
    obtain ⟨value, -, h⟩ := bind_eq_ok.mp h
    cases h
    exact formatName_ne_nil format
  · split at h
    · obtain ⟨value, -, h⟩ := bind_eq_ok.mp h
      cases h
      trivial
    · obtain ⟨source, -, h⟩ := bind_eq_ok.mp h
      cases h
      trivial

end Payload

namespace Media

theorem namesFormat_of_ofEntries? {position : Point} {stroke : Option Text} {entries : Entries}
    {m : Media} (h : ofEntries? position stroke entries = .ok (some m)) :
    m.payload.NamesFormat := by
  unfold ofEntries? at h
  obtain ⟨payload, hpayload, h⟩ := bind_eq_ok.mp h
  cases payload with
  | none => cases h
  | some payload =>
    obtain ⟨width, -, h⟩ := bind_eq_ok.mp h
    obtain ⟨height, -, h⟩ := bind_eq_ok.mp h
    obtain ⟨angle, -, h⟩ := bind_eq_ok.mp h
    obtain ⟨key, -, h⟩ := bind_eq_ok.mp h
    cases h
    exact Payload.namesFormat_of_ofValue? hpayload

theorem namesFormat_of_canvas {f : Canvas.Frame} {entries data : Entries} {m : Media}
    (h : f.media entries data = .ok m) : m.payload.NamesFormat := by
  unfold Canvas.Frame.media at h
  obtain ⟨payload, hpayload, h⟩ := bind_eq_ok.mp h
  obtain ⟨width, -, h⟩ := bind_eq_ok.mp h
  obtain ⟨height, -, h⟩ := bind_eq_ok.mp h
  obtain ⟨key, -, h⟩ := bind_eq_ok.mp h
  cases h
  exact Payload.namesFormat_of_canvas hpayload

end Media

namespace Element

def NamesFormat : Element → Prop
  | media m => m.payload.NamesFormat
  | _ => True

theorem withFormat_eq_self {e : Element} (h : e.NamesFormat) : e.withFormat = e := by
  cases e with
  | media m => rw [withFormat, Payload.withFormat_eq_self h]
  | _ => rfl

theorem namesFormat_of_ofValue? {v : Value} {e : Element} (h : ofValue? v = .ok (some e)) :
    e.NamesFormat := by
  cases e with
  | media m =>
    unfold ofValue? at h
    obtain ⟨entries, -, h⟩ := bind_eq_ok.mp h
    obtain ⟨position, -, h⟩ := bind_eq_ok.mp h
    obtain ⟨stroke, -, h⟩ := bind_eq_ok.mp h
    split at h
    · cases h
    -- Elements of four kinds are no media.
    · obtain ⟨t, -, h⟩ := bind_eq_ok.mp h
      cases h
    · obtain ⟨r, -, h⟩ := bind_eq_ok.mp h
      cases h
    · obtain ⟨l, -, h⟩ := bind_eq_ok.mp h
      cases h
    · obtain ⟨c, -, h⟩ := bind_eq_ok.mp h
      cases h
    · obtain ⟨o, ho, h⟩ := bind_eq_ok.mp h
      cases o with
      | none => cases h
      | some m =>
        cases h
        exact Media.namesFormat_of_ofEntries? ho
  | _ => trivial

theorem namesFormat_of_canvas {entries : Entries} {e : Element}
    (h : Canvas.element? entries = .ok (some e)) : e.NamesFormat := by
  cases e with
  | media m =>
    unfold Canvas.element? at h
    obtain ⟨type, -, h⟩ := bind_eq_ok.mp h
    obtain ⟨f, -, h⟩ := bind_eq_ok.mp h
    split at h
    · cases h
    -- Objects of five types are no images.
    · obtain ⟨t, -, h⟩ := bind_eq_ok.mp h
      cases h
    · obtain ⟨r, -, h⟩ := bind_eq_ok.mp h
      cases h
    · obtain ⟨l, -, h⟩ := bind_eq_ok.mp h
      cases h
    · obtain ⟨c, -, h⟩ := bind_eq_ok.mp h
      cases h
    · obtain ⟨c, -, h⟩ := bind_eq_ok.mp h
      cases h
    · obtain ⟨m, hm, h⟩ := bind_eq_ok.mp h
      cases h
      exact Media.namesFormat_of_canvas (liftArithmetic_eq_ok.mp hm)
  | _ => trivial

theorem namesFormat_of_item {v : Value} {e : Element}
    (h : Canvas.itemElement? v = .ok (some e)) : e.NamesFormat := by
  unfold Canvas.itemElement? at h
  split at h
  · exact namesFormat_of_canvas h
  · cases h

/-- What holds of every element that can be read holds of all elements of a list. -/
theorem forall_readAll {read : Value → Except Fault (Option Element)} {skipped : Nat → Note}
    {P : Element → Prop} (hread : ∀ {v e}, read v = .ok (some e) → P e) {vs : List Value}
    {es : List Element} (h : (readAll read skipped vs).outcome = .ok es) : ∀ e ∈ es, P e := by
  induction vs generalizing es with
  | nil =>
    cases h
    exact fun e he => nomatch he
  | cons v vs ih =>
    obtain ⟨o, rest, ho, hrest, rfl⟩ := outcome_readAll_cons_eq_ok.mp h
    intro e he
    rcases List.mem_append.mp he with he | he
    · rw [Option.mem_toList] at he
      subst he
      exact hread ho
    · exact ih hrest e he

/-- Where a field may have a value of any type, an element has values of the declared types. -/
theorem element?_ofElement (e : Element) : (Handmade.Item.ofElement e).element? = some e := by
  cases e with
  | text t =>
    obtain ⟨_, _, _, _, _, key, stroke⟩ := t
    cases key <;> cases stroke <;> rfl
  | rectangle r =>
    obtain ⟨_, _, _, fill, _, stroke⟩ := r
    cases fill <;> cases stroke <;> rfl
  | line l =>
    obtain ⟨_, _, _, _, stroke⟩ := l
    cases stroke <;> rfl
  | circle c =>
    obtain ⟨_, _, _, radiusY, stroke⟩ := c
    cases radiusY <;> cases stroke <;> rfl
  | media m =>
    obtain ⟨_, payload, _, _, _, _, key, stroke⟩ := m
    cases payload with
    | barcode format value => cases value <;> cases key <;> cases stroke <;> rfl
    | qr value => cases value <;> cases key <;> cases stroke <;> rfl
    | raster source => cases source <;> cases key <;> cases stroke <;> rfl

def numbers : Element → List Number
  | text t => [t.position.x, t.position.y, t.fontSize, t.angle]
  | rectangle r => [r.position.x, r.position.y, r.width, r.height, r.strokeWidth]
  | line l => [l.position.x, l.position.y, l.start.x, l.start.y, l.finish.x, l.finish.y,
      l.strokeWidth]
  | circle c => [c.position.x, c.position.y, c.radius, c.strokeWidth] ++ c.radiusY.toList
  | media m => [m.position.x, m.position.y, m.width, m.height, m.angle]

theorem agrees_self {eq : Number → Number → Bool} {e : Element}
    (h : ∀ n ∈ e.numbers, eq n n = true) : e.agrees eq e = true := by
  cases e with
  | text t => simpa [agrees, Point.agrees, numbers, and_assoc] using h
  | rectangle r => simpa [agrees, Point.agrees, numbers, and_assoc] using h
  | line l => simpa [agrees, Point.agrees, numbers, and_assoc] using h
  | circle c =>
    obtain ⟨position, radius, strokeWidth, radiusY, stroke⟩ := c
    cases radiusY <;>
      simpa [agrees, agrees.radiusAgrees, Point.agrees, numbers, and_assoc] using h
  | media m => simpa [agrees, Point.agrees, numbers, and_assoc] using h

end Element

namespace Number

def isNan : Number → Bool
  | real (.nan _) => true
  | _ => false

theorem same_self {n : Number} (h : n.isNan = false) : n.same n = true := by
  cases n with
  | int n => simp [same, rank]
  | real x =>
    cases x with
    | nan payload => cases h
    | infinity negative => cases negative <;> rfl
    | finite negative m e canonical => simp [same, rank, Binary64.rank]

end Number

theorem Canvas.outcome_design_eq_ok {page : Page} {v : Value} {d : Design} :
    (design page v).outcome = .ok d ↔ ∃ canvas items,
      unpacked v = .ok canvas ∧ objects canvas = .ok items ∧ d.page = page ∧
      (Element.readAll itemElement? .skippedObject items).outcome = .ok d.elements := by
  simp only [design, Journaled.outcome_bind_eq_ok, Journaled.outcome_lift,
    Journaled.outcome_pure, Except.ok.injEq]
  constructor
  · rintro ⟨canvas, hcanvas, items, hitems, elements, helements, rfl⟩
    exact ⟨canvas, items, hcanvas, hitems, rfl, helements⟩
  · rintro ⟨canvas, items, hcanvas, hitems, rfl, helements⟩
    exact ⟨canvas, hcanvas, items, hitems, _, helements, rfl⟩

namespace Design
variable {d : Design}

/-- Some number of the design stands for no value. -/
def HasNan (d : Design) : Prop := ∃ e ∈ d.elements, ∃ n ∈ e.numbers, n.isNan = true

/-- The design has been taken in, from a document or from a canvas on a page. -/
inductive IsIngested (d : Design) : Prop
  | document (default : Option Page) (v : Value) (h : (ofValue default v).outcome = .ok d)
  | canvas (page : Page) (v : Value) (h : (Canvas.design page v).outcome = .ok d)

theorem elementsAgree_self {eq : Number → Number → Bool} {es : List Element}
    (h : ∀ e ∈ es, e.agrees eq e = true) : elementsAgree eq es es = true := by
  induction es with
  | nil => rfl
  | cons e es ih =>
    obtain ⟨he, hes⟩ := List.forall_mem_cons.mp h
    rw [elementsAgree, he, ih hes, Bool.and_self]

theorem agrees_same_self (h : ¬d.HasNan) : d.agrees Number.same d = true := by
  have helements : elementsAgree Number.same d.elements d.elements = true := by
    refine elementsAgree_self fun e he => Element.agrees_self fun n hn => Number.same_self ?_
    exact Bool.eq_false_iff.mpr fun hnan => h ⟨e, he, n, hn, hnan⟩
  rw [agrees, helements, Bool.and_true, beq_self_eq_true]

theorem withFormat_eq_self (h : ∀ e ∈ d.elements, e.NamesFormat) : d.withFormat = d := by
  have helements : d.elements.map Element.withFormat = d.elements.map id :=
    List.map_congr_left fun e he => Element.withFormat_eq_self (h e he)
  rw [withFormat, helements, List.map_id]

theorem IsIngested.namesFormat (h : d.IsIngested) : ∀ e ∈ d.elements, e.NamesFormat := by
  cases h with
  | document default v h =>
    obtain ⟨_, _, -, -, -, helements⟩ := outcome_ofValue_eq_ok.mp h
    exact Element.forall_readAll Element.namesFormat_of_ofValue? helements
  | canvas page v h =>
    obtain ⟨_, _, -, -, -, helements⟩ := Canvas.outcome_design_eq_ok.mp h
    exact Element.forall_readAll Element.namesFormat_of_item helements

/-- Every field of a design that has been taken in is of its declared type, and every barcode names
its format. Written as a document, the design is read back without a note and without a change, so
that the document stays the same from then on; and it equals what is read back if all its numbers
equal themselves. -/
theorem ingested_kept (h : d.IsIngested) :
    (∀ e ∈ d.elements, (Handmade.Item.ofElement e).element? = some e ∧ e.NamesFormat) ∧
    (∀ default, ofValue default d.toValue = pure d) ∧
    (∀ default d', (ofValue default d.toValue).outcome = .ok d' →
      d'.toValue = d.toValue ∧ (¬d.HasNan → d'.agrees Number.same d = true)) := by
  have hwritten : ∀ default, ofValue default d.toValue = pure d := by
    intro default
    rw [ofValue_written, withFormat_eq_self h.namesFormat]
  refine ⟨fun e he => ⟨e.element?_ofElement, h.namesFormat e he⟩, hwritten, ?_⟩
  intro default d' hd'
  rw [hwritten] at hd'
  cases hd'
  exact ⟨rfl, agrees_same_self⟩

end Design

/-- A canvas with numerals and truth values where numbers are expected, a barcode of an empty
format, and two things that are not printed. -/
def untidyCanvas : Value := .ofFields [("objects", .list [
  .ofFields [("type", .text "i-text"), ("left", .text "10"), ("fontSize", .bool true),
    ("scaleY", .number (.real (.ofRat (3 / 2)))), ("stroke", .number 7),
    ("data", .ofFields [("isDynamic", .text "no"), ("field", .number 12)])],
  .ofFields [("type", .text "group")],
  .ofFields [("type", .text "LINE"), ("scaleX", .number 2),
    ("points", .list [.text " 1_0 ", .bool true, .number 3, .number 4])],
  .number 5,
  .ofFields [("type", .text "image"),
    ("data", .ofFields [("isBarcode", .number 1), ("format", .text "")])]])]

def tidyDesign : Design where
  page := ⟨254, 508, 254, by decide, by decide, by decide⟩
  elements := [
    .text { position := ⟨0, 0⟩, fontSize := .real (.ofInt 30), isDynamic := true,
            fieldKey := some "12", stroke := some "7" },
    .line { position := ⟨0, 0⟩, start := ⟨.real (.ofInt 20), .real (.ofInt 1)⟩,
            finish := ⟨.real (.ofInt 6), .real (.ofInt 4)⟩ },
    .media { position := ⟨0, 0⟩, payload := .barcode "CODE128" none, isDynamic := true }]

theorem ingested_kept_untidy :
    (Canvas.design tidyDesign.page untidyCanvas).outcome = .ok tidyDesign ∧
      (∀ default, Design.ofValue default tidyDesign.toValue = pure tidyDesign) ∧
      tidyDesign.agrees Number.same tidyDesign = true := by
  have hread : (Canvas.design tidyDesign.page untidyCanvas).outcome = .ok tidyDesign := by
    decide +kernel
  have hnan : ¬tidyDesign.HasNan := by
    unfold Design.HasNan
    decide +kernel
  obtain ⟨-, hwritten, hback⟩ := Design.ingested_kept (.canvas tidyDesign.page untidyCanvas hread)
  exact ⟨hread, hwritten, (hback none tidyDesign (by rw [hwritten]; rfl)).2 hnan⟩

end LabelPress
