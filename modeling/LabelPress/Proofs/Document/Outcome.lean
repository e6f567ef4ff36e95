import LabelPress.Proofs.Document.Faults

/-!
# Documents that are read or refused

Every document whose integers have a text ends as a design or is refused, unless its page is asked
for by a physical size that does not fit. Such a size goes past the reader with a fault of
arithmetic, as only the type of its numbers is looked at.
-/

namespace LabelPress

namespace Page
variable {hasText : Bool}

theorem positive_refuses {v : Value} (hv : hasText = true → v.hasText = true) (field : Text) :
    Refuses hasText (positive field v) := by
  unfold positive
  have hfault : Refuses hasText (do throw (.geometry field (← v.shown)) :
      Except Fault { n : Nat // 0 < n }) := by
    refine (Refuses.text (Value.shown_fails v) hv).bind fun _ _ => ?_
    exact .throw rfl
  dsimp only
  split
  · exact .pure
  · exact hfault

theorem ofFields_refuses {dpi width height : Value} (hdpi : hasText = true → dpi.hasText = true)
    (hwidth : hasText = true → width.hasText = true)
    (hheight : hasText = true → height.hasText = true) :
    Refuses hasText (ofFields dpi width height) :=
  (positive_refuses hdpi "dpi").bind fun _ _ =>
    (positive_refuses hwidth "width_dots").bind fun _ _ =>
      (positive_refuses hheight "height_dots").map

theorem unitOf_refuses (entries : Entries) : Refuses hasText (unitOf entries) := by
  unfold unitOf
  split
  · exact .throw rfl
  · split
    · exact .pure
    · exact .throw rfl

theorem ofSize_refuses {width height : Number} {unit : LengthUnit} {dpi : Value}
    (hdpi : hasText = true → dpi.hasText = true)
    (hfits : ∀ d : Nat, 0 < d → dpi = .number (.int d) →
      PhysicalSize.Fits ⟨width, height, unit, d⟩) :
    Refuses hasText (ofSize width height unit dpi) := by
  refine (positive_refuses hdpi "dpi").bind fun d hd => ?_
  obtain ⟨d, hpos⟩ := d
  obtain ⟨⟨w, hw⟩, h, hh⟩ := PhysicalSize.fits_iff.mp (hfits d hpos (positive_eq_ok.mp hd))
  dsimp only at hw hh ⊢
  rw [hw, hh]
  exact ofFields_refuses hdpi (fun _ => hasText_of_toDots hw) (fun _ => hasText_of_toDots hh)

theorem ofSize_eq_error {size : PhysicalSize} (hdpi : 0 < size.dpi) (hfits : ¬ size.Fits) :
    ∃ fault, ofSize size.width size.height size.unit (.number (.int size.dpi)) =
      .error (.arithmetic fault) := by
  have hpositive : positive "dpi" (.number (.int size.dpi)) = .ok ⟨size.dpi, hdpi⟩ :=
    positive_eq_ok.mpr rfl
  rw [ofSize, hpositive]
  cases hw : toDots size.width size.unit (.int size.dpi) with
  | error fault =>
    refine ⟨fault, ?_⟩
    simp only [bind, Except.bind, hw]
    rfl
  | ok w =>
    cases hh : toDots size.height size.unit (.int size.dpi) with
    | error fault =>
      refine ⟨fault, ?_⟩
      simp only [bind, Except.bind, hw, hh]
      rfl
    | ok h => exact absurd (PhysicalSize.fits_iff.mpr ⟨⟨w, hw⟩, h, hh⟩) hfits

theorem ofValue_refuses {v : Value} (hv : hasText = true → v.hasText = true)
    (hfits : ∀ entries size, v.head = .mapping entries → PhysicalSize.IsAskedBy size entries →
      size.Fits) : Refuses hasText (ofValue v) := by
  refine (Value.mustMap_refuses "page" v).bind fun entries hmap => ?_
  have h : hasText = true → Entries.hasText entries = true :=
    fun hb => Value.hasText_of_mustMap hmap (hv hb)
  have hdpi : hasText = true →
      ((entries.get? "dpi").getD (.number defaultDpi)).hasText = true :=
    fun hb => Entries.hasText_getD (h hb) (by decide +kernel) "dpi"
  have hdots : ∀ name, hasText = true →
      ((entries.get? name).getD (.number 0)).hasText = true :=
    fun name hb => Entries.hasText_getD (h hb) (by decide +kernel) name
  dsimp only
  split
  · exact ofFields_refuses hdpi (hdots "width_dots") (hdots "height_dots")
  · next hno =>
    split
    · exact .throw rfl
    · next hgiven =>
      refine (unitOf_refuses entries).bind fun unit hunit => ?_
      refine (Entries.number_refuses h "width" 0).bind fun width hwidth => ?_
      refine (Entries.number_refuses h "height" 0).bind fun height hheight => ?_
      refine ofSize_refuses hdpi fun d hpos hd => ?_
      refine hfits entries _ (Value.mustMap_eq_ok.mp hmap)
        ⟨by simpa using hno, by simpa using hgiven, hunit, hwidth, hheight, hd, hpos⟩

theorem ofValue_eq_error {v : Value} {entries : Entries} {size : PhysicalSize}
    (hhead : v.head = .mapping entries) (hasked : size.IsAskedBy entries) (hfits : ¬ size.Fits) :
    ∃ fault, ofValue v = .error (.arithmetic fault) := by
  have hmap : v.mustMap "page" = .ok entries := Value.mustMap_eq_ok.mpr hhead
  simp only [ofValue, hmap, bind, Except.bind, hasked.no_dots, hasked.given, hasked.unit,
    hasked.width, hasked.height, hasked.dpi]
  exact ofSize_eq_error hasked.dpi_pos hfits

end Page

section Lists
variable {α β : Type} {hasText : Bool}

theorem Journaled.forEach_refuses {f : α → Journaled β} {as : List α}
    (h : ∀ a ∈ as, Refuses hasText (f a).outcome) : Refuses hasText (forEach f as).outcome := by
  induction as with
  | nil => exact .pure
  | cons a as ih =>
    rw [forEach, outcome_bind]
    refine (h a List.mem_cons_self).bind fun b _ => ?_
    rw [outcome_bind]
    exact (ih fun a ha => h a (List.mem_cons_of_mem _ ha)).bind fun _ _ => .pure

theorem Element.readAll_refuses {read : Value → Except Fault (Option Element)}
    {skipped : Nat → Note} {vs : List Value} (h : ∀ v ∈ vs, Refuses hasText (read v)) :
    Refuses hasText (readAll read skipped vs).outcome := by
  rw [readAll_eq, Journaled.outcome_bind]
  refine Refuses.bind (Journaled.forEach_refuses fun entry hentry => ?_) fun _ _ => .pure
  rw [outcome_readEntry]
  exact h entry.2 (Element.mem_of_mem_numbered hentry)

end Lists

namespace Document

def AsksFor (document : Value) (size : PhysicalSize) : Prop :=
  ∃ v entries, document.entries.get? "page" = some v ∧ v.head = .mapping entries ∧
    size.IsAskedBy entries

theorem exists_root_of_asksFor {document : Value} {size : PhysicalSize}
    (h : AsksFor document size) : ∃ root, document.head = .mapping root := by
  obtain ⟨v, entries, hv, -⟩ := h
  unfold Value.entries at hv
  split at hv
  · next root hroot => exact ⟨root, hroot⟩
  · cases hv

end Document

theorem Page.ofDocument_refuses {hasText : Bool} {document : Value} {root : Entries}
    (hroot : document.head = .mapping root) (htext : hasText = true → Entries.hasText root = true)
    (hfits : ∀ size, Document.AsksFor document size → size.Fits) (default : Option Page)
    (missing : DesignFault) : Refuses hasText (ofDocument root default missing) := by
  have hentries : document.entries = root := by simp only [Value.entries, hroot]
  unfold ofDocument
  split
  · next v hv =>
    refine ofValue_refuses (fun hb => Entries.hasText_of_get? (htext hb) hv) ?_
    exact fun entries size hhead hasked => hfits size ⟨v, entries, hentries ▸ hv, hhead, hasked⟩
  · exact .pure
  · exact .throw rfl

theorem Page.ofDocument_eq_error {document : Value} {root : Entries} {size : PhysicalSize}
    (hroot : document.head = .mapping root) (hasked : Document.AsksFor document size)
    (hfits : ¬size.Fits) (default : Option Page) (missing : DesignFault) :
    ∃ fault, ofDocument root default missing = .error (.arithmetic fault) := by
  obtain ⟨v, entries, hv, hhead, hsize⟩ := hasked
  obtain ⟨fault, hfault⟩ := ofValue_eq_error hhead hsize hfits
  have hentries : document.entries = root := by simp only [Value.entries, hroot]
  rw [hentries] at hv
  refine ⟨fault, ?_⟩
  simp only [ofDocument, hv, hfault]

namespace Design
variable {hasText : Bool}

theorem entriesOf_refuses (v : Value) : Refuses hasText (entriesOf v) := by
  unfold entriesOf
  split
  · split
    · exact .pure
    · exact .throw rfl
  · exact .pure

theorem hasText_of_entriesOf {v : Value} {items : List Value} (hitems : entriesOf v = .ok items)
    (hv : v.hasText = true) : ∀ item ∈ items, item.hasText = true := by
  unfold entriesOf at hitems
  split at hitems
  · split at hitems
    · next items' hhead =>
      cases hitems
      have htext := Value.hasText_head hv
      rw [hhead] at htext
      exact Value.haveText_iff.mp htext
    · cases hitems
  · cases hitems
    exact fun item hitem => nomatch hitem

/-- Only a physical size that does not fit and an integer without a text go past the reader. -/
theorem ofValue_refuses (default : Option Page) {document : Value}
    (hfits : ∀ size, Document.AsksFor document size → size.Fits) :
    Refuses document.hasText (ofValue default document).outcome := by
  simp only [ofValue, Journaled.outcome_bind, Journaled.outcome_lift]
  refine (Value.mustMap_refuses "design" document).bind fun root hmap => ?_
  have hroot : document.hasText = true → Entries.hasText root = true :=
    Value.hasText_of_mustMap hmap
  refine Refuses.bind ?_ fun page _ => ?_
  · exact Page.ofDocument_refuses (Value.mustMap_eq_ok.mp hmap) hroot hfits default .noPage
  · refine (entriesOf_refuses _).bind fun items hitems => ?_
    refine (Element.readAll_refuses fun v hv => Element.ofValue?_refuses fun hb => ?_).bind
      fun _ _ => .pure
    exact hasText_of_entriesOf hitems (Entries.hasText_getD (hroot hb) rfl "elements") v hv

theorem outcome_ofValue_eq_error (default : Option Page) {document : Value} {size : PhysicalSize}
    (hasked : Document.AsksFor document size) (hfits : ¬ size.Fits) :
    ∃ fault, (ofValue default document).outcome = .error (.arithmetic fault) := by
  obtain ⟨root, hroot⟩ := Document.exists_root_of_asksFor hasked
  obtain ⟨fault, hpage⟩ := Page.ofDocument_eq_error hroot hasked hfits default .noPage
  refine ⟨fault, ?_⟩
  have hmap : document.mustMap "design" = .ok root := Value.mustMap_eq_ok.mpr hroot
  simp only [ofValue, Journaled.outcome_bind, Journaled.outcome_lift, hmap]
  change Page.ofDocument root default .noPage >>= _ = _
  rw [hpage]
  rfl

/-- A document whose integers have a text is read or refused, whatever else it holds, exactly if the
page that it may ask for in a unit of length fits. It is assumed that the stack does not run out on
values that are nested very deeply: `Value.shown` has no limit. -/
theorem read_or_refused_iff {document : Value} (htext : document.hasText = true)
    (default : Option Page) :
    (∀ fault, (ofValue default document).outcome = .error fault → fault.isRefusal = true) ↔
      ∀ size, Document.AsksFor document size → size.Fits := by
  constructor
  · intro hrefused size hasked
    by_contra hfits
    obtain ⟨fault, hfault⟩ := outcome_ofValue_eq_error default hasked hfits
    exact absurd (hrefused _ hfault) Bool.false_ne_true
  · intro hfits fault hfault
    rcases ofValue_refuses default hfits fault hfault with hrefusal | ⟨-, hno⟩
    · exact hrefusal
    · rw [htext] at hno
      cases hno

end Design

def metricDocument : Value := .ofFields [
  ("page", .ofFields [("width", .number 100), ("height", .number 150), ("unit", .text "mm")]),
  ("elements", .list [.ofFields [("kind", .text "text"), ("x", .list [.number 3])]])]

theorem read_or_refused_metric : metricDocument.hasText = true ∧
    ∀ fault, (Design.ofValue none metricDocument).outcome = .error fault →
      fault.isRefusal = true := by
  have htext : metricDocument.hasText = true := by decide +kernel
  refine ⟨htext, (Design.read_or_refused_iff htext none).mpr ?_⟩
  rintro ⟨width, height, unit, dpi⟩ ⟨v, entries, hv, hhead, h⟩
  cases hv
  cases hhead
  have hwidth : (Except.ok 100 : Except Fault Number) = .ok width := h.width
  have hheight : (Except.ok 150 : Except Fault Number) = .ok height := h.height
  have hunit : (Except.ok LengthUnit.millimeter : Except Fault LengthUnit) = .ok unit := h.unit
  have hdpi : Value.number 203 = .number (.int dpi) := h.dpi
  cases hwidth
  cases hheight
  cases hunit
  have hdots : (203 : Int) = dpi := Number.int.inj (Scalar.number.inj (Value.scalar.inj hdpi))
  obtain rfl : dpi = 203 := by omega
  exact PhysicalSize.fits_iff.mpr
    ⟨exists_eq_ok (by decide +kernel), exists_eq_ok (by decide +kernel)⟩

/-- A label whose width is below all numbers of inches. -/
def bottomlessDocument : Value := .ofFields [
  ("page", .ofFields [("width", .number (.real (.infinity true))), ("height", .number 6)])]

theorem not_refused_bottomless :
    ∃ fault, (Design.ofValue none bottomlessDocument).outcome = .error fault ∧
      fault.isRefusal = false :=
  ⟨.arithmetic .infinityToInteger, by decide +kernel, rfl⟩

end LabelPress
