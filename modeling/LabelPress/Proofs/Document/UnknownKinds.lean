import LabelPress.Document.Write
import LabelPress.Proofs.Document.Read

/-!
# Elements of unknown kinds

An element of an unknown kind is passed over, but not before its position and its stroke colour have
been read. So a document with one more such element is the same design if these fields hold nothing
unfit, and is rejected otherwise, whatever the other fields hold.
-/

namespace LabelPress

namespace ElementKind

theorem ofValue?_eq_none_iff {v : Value} :
    ofValue? v = none ↔ ∀ k : ElementKind, v ≠ .text k.word := by
  have hall : ∀ k, k ∈ all := by
    intro k
    cases k <;> decide
  unfold ofValue?
  split
  · next w =>
    simp only [ofWord?, List.find?_eq_none, beq_iff_eq, hall, true_implies]
    exact ⟨fun h k hk => h k (by cases hk; rfl), fun h k hk => h k (by rw [hk])⟩
  · next hne => exact ⟨fun _ k hk => hne _ hk, fun _ => rfl⟩

end ElementKind

structure Entries.ReadableCommon (fields : Entries) : Prop where
  x : (fields.getOrNull "x").IsOptionalNumber
  y : (fields.getOrNull "y").IsOptionalNumber
  stroke : (fields.getOrNull "stroke").IsOptionalText

namespace Document

def items (document : Value) : List Value :=
  (Design.entriesOf (document.entries.getOrNull "elements")).toOption.getD []

def insertItem (document : Value) (index : Nat) (item : Value) : Value :=
  .mapping (document.entries.insert (.text "elements")
    (.list ((items document).take index ++ item :: (items document).drop index)))

end Document

theorem Page.ofDocument_insert {root : Entries} {name : Text} (hne : name ≠ "page") (v : Value)
    (default : Option Page) (missing : DesignFault) :
    Page.ofDocument (root.insert (.text name) v) default missing =
      Page.ofDocument root default missing := by
  simp only [Page.ofDocument, Entries.get?_insert_of_ne hne]

namespace Element
variable {read : Value → Except Fault (Option Element)} {skipped : Nat → Note}

/-- An element of an unknown kind is never taken, and is passed over exactly if its common fields
can be read. -/
theorem ofValue?_unknown {m : Value} {fields : Entries} (hm : m.head = .mapping fields)
    (hkind : ∀ k : ElementKind, fields.getOrNull "kind" ≠ .text k.word) {o : Option Element} :
    ofValue? m = .ok o ↔ fields.ReadableCommon ∧ o = none := by
  have hmap : m.mustMap "element" = .ok fields := Value.mustMap_eq_ok.mpr hm
  have hnone := ElementKind.ofValue?_eq_none_iff.mpr hkind
  simp only [ofValue?, hmap, hnone, bind_eq_ok, pure_eq_ok, Except.ok.injEq, exists_eq_left',
    Point.ofEntries]
  constructor
  · rintro ⟨_, ⟨x, hx, y, hy, -⟩, s, hs, rfl⟩
    exact ⟨⟨Entries.exists_number_iff.mp ⟨x, hx⟩, Entries.exists_number_iff.mp ⟨y, hy⟩,
      Entries.exists_optionalText_iff.mp ⟨s, hs⟩⟩, rfl⟩
  · rintro ⟨hcommon, rfl⟩
    obtain ⟨x, hx⟩ := Entries.exists_number_iff.mpr hcommon.x
    obtain ⟨y, hy⟩ := Entries.exists_number_iff.mpr hcommon.y
    obtain ⟨s, hs⟩ := Entries.exists_optionalText_iff.mpr hcommon.stroke
    exact ⟨_, ⟨x, hx, y, hy, rfl⟩, s, hs, rfl⟩

/-- An entry that is passed over leaves the elements as they are, wherever it stands. -/
theorem outcome_readAll_insert {P : Prop} {m : Value} (hm : ∀ o, read m = .ok o ↔ P ∧ o = none)
    (vs ws : List Value) (es : List Element) :
    (readAll read skipped (vs ++ m :: ws)).outcome = .ok es ↔
      P ∧ (readAll read skipped (vs ++ ws)).outcome = .ok es := by
  induction vs generalizing es with
  | nil =>
    rw [List.nil_append, List.nil_append, outcome_readAll_cons_eq_ok]
    constructor
    · rintro ⟨o, rest, ho, hrest, rfl⟩
      obtain ⟨hP, rfl⟩ := (hm o).mp ho
      exact ⟨hP, hrest⟩
    · rintro ⟨hP, hrest⟩
      exact ⟨none, es, (hm none).mpr ⟨hP, rfl⟩, hrest, rfl⟩
  | cons v vs ih =>
    simp only [List.cons_append, outcome_readAll_cons_eq_ok, ih]
    constructor
    · rintro ⟨o, rest, ho, ⟨hP, hrest⟩, hes⟩
      exact ⟨hP, o, rest, ho, hrest, hes⟩
    · rintro ⟨hP, o, rest, ho, hrest, hes⟩
      exact ⟨o, rest, ho, ⟨hP, hrest⟩, hes⟩

end Element

namespace Document
variable {default : Option Page} {document : Value} {d : Design}

theorem items_read (hd : (Design.ofValue default document).outcome = .ok d) :
    (Element.readAll Element.ofValue? .skippedEntry (items document)).outcome = .ok d.elements := by
  obtain ⟨root, vs, hroot, -, hitems, helements⟩ := Design.outcome_ofValue_eq_ok.mp hd
  have hentries : document.entries = root := by simp only [Value.entries, hroot]
  have hvs : items document = vs := by
    rw [items, hentries, hitems]
    rfl
  rw [hvs, helements]

/-- A further entry in the list of elements changes what is read of that list only. -/
theorem outcome_insertItem (hd : (Design.ofValue default document).outcome = .ok d) (index : Nat)
    (m : Value) (d' : Design) :
    (Design.ofValue default (insertItem document index m)).outcome = .ok d' ↔
      d'.page = d.page ∧ (Element.readAll Element.ofValue? .skippedEntry
        ((items document).take index ++ m :: (items document).drop index)).outcome =
          .ok d'.elements := by
  obtain ⟨root, _, hroot, hpage, -, -⟩ := Design.outcome_ofValue_eq_ok.mp hd
  have hentries : document.entries = root := by simp only [Value.entries, hroot]
  rw [Design.outcome_ofValue_eq_ok]
  constructor
  · rintro ⟨_, vs, hroot', hpage', hitems', helements'⟩
    cases hroot'
    rw [Page.ofDocument_insert (by decide), hentries, hpage] at hpage'
    rw [Entries.getOrNull_of_get? (Entries.get?_insert_self _), Design.entriesOf_list] at hitems'
    cases hitems'
    exact ⟨(Except.ok.inj hpage').symm, helements'⟩
  · rintro ⟨hpage', helements'⟩
    refine ⟨_, _, rfl, ?_, ?_, helements'⟩
    · rw [Page.ofDocument_insert (by decide), hentries, hpage, hpage']
    · rw [Entries.getOrNull_of_get? (Entries.get?_insert_self _), Design.entriesOf_list]

end Document

/-- Inserting an element of an unknown kind into an accepted document gives the same design exactly
if its position and stroke colour are fit to be read, and is a fault otherwise. -/
theorem Design.unknown_kind_skipped_iff {default : Option Page} {document : Value} {d : Design}
    (hd : (Design.ofValue default document).outcome = .ok d) {m : Value} {fields : Entries}
    (hm : m.head = .mapping fields)
    (hkind : ∀ k : ElementKind, fields.getOrNull "kind" ≠ .text k.word) (index : Nat)
    (d' : Design) :
    (Design.ofValue default (Document.insertItem document index m)).outcome = .ok d' ↔
      fields.ReadableCommon ∧ d' = d := by
  rw [Document.outcome_insertItem hd, Element.outcome_readAll_insert fun o =>
    Element.ofValue?_unknown hm hkind, List.take_append_drop, Document.items_read hd,
    Except.ok.injEq]
  constructor
  · rintro ⟨hpage, hcommon, helements⟩
    obtain ⟨page', elements'⟩ := d'
    cases hpage
    cases helements
    exact ⟨hcommon, rfl⟩
  · rintro ⟨hcommon, rfl⟩
    exact ⟨rfl, hcommon, rfl⟩

def blankDesign : Design := ⟨⟨300, 1200, 1800, by decide, by decide, by decide⟩, []⟩

theorem unknown_kind_skipped_hologram :
    (Design.ofValue none (Document.insertItem blankDesign.toValue 0 (.ofFields
      [("kind", .text "hologram"), ("y", .number 1), ("payload", .text "left")]))).outcome =
        .ok blankDesign :=
  (Design.unknown_kind_skipped_iff (d := blankDesign) rfl rfl
    (ElementKind.ofValue?_eq_none_iff.mp rfl) 0 blankDesign).mpr
    ⟨⟨Or.inl rfl, Or.inr ⟨1, rfl⟩, rfl, _, rfl⟩, rfl⟩

/-- An element of an unknown kind that is placed by a word. -/
def misplacedFields : Entries := .ofFields [("kind", .text "blob"), ("x", .text "left")]

theorem unknown_kind_rejected_misplaced :
    (Design.ofValue none blankDesign.toValue).outcome = .ok blankDesign ∧
      (∀ k : ElementKind, misplacedFields.getOrNull "kind" ≠ .text k.word) ∧
      (Design.ofValue none
        (Document.insertItem blankDesign.toValue 0 (.mapping misplacedFields))).outcome =
          .error (.design (.notNumber "x" "'left'")) := by
  refine ⟨rfl, ElementKind.ofValue?_eq_none_iff.mp rfl, ?_⟩
  decide +kernel

end LabelPress
