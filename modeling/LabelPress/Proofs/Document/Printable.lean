import LabelPress.Proofs.Document.Faults
import LabelPress.Proofs.Label.Printable

/-!
# Documents that give a label

The page of a document whose integers have a text can always be written. So an accepted document
gives a label, for any bindings, exactly if each of its elements that is no guide can be printed.
-/

namespace LabelPress

namespace Page

structure IsWritable (p : Page) : Prop where
  width : hasIntegerText p.width = true
  height : hasIntegerText p.height = true

theorem isWritable_of_ofFields {dpi width height : Value} {p : Page}
    (h : ofFields dpi width height = .ok p) (hwidth : width.hasText = true)
    (hheight : height.hasText = true) : p.IsWritable := by
  obtain ⟨-, rfl, rfl⟩ := ofFields_eq_ok.mp h
  rw [Value.hasText_int] at hwidth hheight
  exact ⟨hwidth, hheight⟩

theorem isWritable_of_ofSize {width height : Number} {unit : LengthUnit} {dpi : Value} {p : Page}
    (h : ofSize width height unit dpi = .ok p) : p.IsWritable := by
  obtain ⟨-, hwidth, hheight⟩ := ofSize_eq_ok.mp h
  have hw := hasText_of_toDots hwidth
  have hh := hasText_of_toDots hheight
  rw [Value.hasText_int] at hw hh
  exact ⟨hw, hh⟩

theorem isWritable_of_ofValue {v : Value} {p : Page} (hv : v.hasText = true)
    (h : ofValue v = .ok p) : p.IsWritable := by
  obtain ⟨entries, hmap, hpage⟩ := bind_eq_ok.mp h
  have hdots : ∀ name, ((entries.get? name).getD (.number 0)).hasText = true :=
    fun name => Entries.hasText_getD (Value.hasText_of_mustMap hmap hv) (by decide +kernel) name
  dsimp only at hpage
  split at hpage
  · -- A size in dots is made of integers of the document; one in a unit of length is rounded.
    exact isWritable_of_ofFields hpage (hdots "width_dots") (hdots "height_dots")
  · split at hpage
    · exact absurd hpage throw_ne_ok
    · obtain ⟨unit, -, hpage⟩ := bind_eq_ok.mp hpage
      obtain ⟨width, -, hpage⟩ := bind_eq_ok.mp hpage
      obtain ⟨height, -, hpage⟩ := bind_eq_ok.mp hpage
      exact isWritable_of_ofSize hpage

theorem isWritable_of_ofDocument {root : Entries} {default : Option Page} {missing : DesignFault}
    {p : Page} (hdefault : ∀ page, default = some page → page.IsWritable)
    (hroot : Entries.hasText root = true) (h : ofDocument root default missing = .ok p) :
    p.IsWritable := by
  unfold ofDocument at h
  split at h
  · next v hv => exact isWritable_of_ofValue (Entries.hasText_of_get? hroot hv) h
  · cases h
    exact hdefault p rfl
  · cases h

end Page

namespace Design

theorem isWritable_page {default : Option Page} {document : Value} {d : Design}
    (hdefault : ∀ page, default = some page → page.IsWritable) (htext : document.hasText = true)
    (hread : (ofValue default document).outcome = .ok d) : d.page.IsWritable := by
  obtain ⟨root, items, hroot, hpage, -, -⟩ := outcome_ofValue_eq_ok.mp hread
  have hentries := Value.hasText_head htext
  rw [hroot] at hentries
  exact Page.isWritable_of_ofDocument hdefault hentries hpage

/-- An accepted document whose integers have a text gives a label exactly if each of its elements
that is no guide can be printed. -/
theorem compiles_iff {default : Option Page} {document : Value} {d : Design}
    (hdefault : ∀ page, default = some page → page.IsWritable) (htext : document.hasText = true)
    (hread : (ofValue default document).outcome = .ok d) (bindings : Entries) :
    (∃ label, (({} : Target).compile bindings d).outcome = .ok label) ↔
      ∀ e ∈ d.elements, e.isGuide ({} : Target).guideColor = false →
        e.IsPrintable bindings ({} : Target).fontScale := by
  have hpage := isWritable_page hdefault htext hread
  rw [Target.exists_compile_iff rfl]
  exact ⟨fun h => h.2.2.1, fun h => ⟨hpage.width, hpage.height, h, .inl rfl⟩⟩

end Design

/-- Only an integer with too many digits keeps a bound value from being printed. -/
theorem Element.showsValue_of_hasText {bindings : Entries} (h : Entries.hasText bindings = true)
    (e : Element) : e.ShowsValue bindings := by
  intro key v _ hv
  rw [Entries.bound?_eq_filter, Option.filter_eq_some_iff] at hv
  have htext := Entries.hasText_of_get? h hv.1
  cases hprinted : v.printed with
  | ok s => exact ⟨s, rfl⟩
  | error fault =>
    rw [(Value.printed_fails v fault hprinted).2] at htext
    cases htext

def narrowPage : Page := ⟨152, 456, 913, Nat.succ_pos 151, Nat.succ_pos 455, Nat.succ_pos 912⟩

def narrowSection : Text × Value := ("page", .ofFields
  [("dpi", .number 152), ("width_dots", .number 456), ("height_dots", .number 913)])

def remoteDocument : Value := .ofFields [narrowSection, ("elements", .list [
  .ofFields [("kind", .text "text"), ("is_dynamic", .bool true), ("field_key", .text "po")],
  .ofFields [("kind", .text "rectangle"), ("x", .number (.int (10 ^ 300))),
    ("width", .number (.real (.ofRat (5 / 2)))), ("height", .number 50)],
  .ofFields [("kind", .text "line"), ("x", .number (.real (.infinity false))),
    ("stroke", .text "#f0f0f0")]])]

def remoteDesign : Design where
  page := narrowPage
  elements := [
    .text { position := ⟨0, 0⟩, isDynamic := true, fieldKey := some "po" },
    .rectangle { position := ⟨.int (10 ^ 300), 0⟩, width := .real (.ofRat (5 / 2)), height := 50 },
    .line { position := ⟨.real (.infinity false), 0⟩, start := ⟨0, 0⟩, stroke := some "#f0f0f0" }]

def remoteBindings : Entries := [(.text "po", .number 4711)]

theorem compiles_remote : remoteDocument.hasText = true ∧
    (Design.ofValue none remoteDocument).outcome = .ok remoteDesign ∧
    ∃ label, (({} : Target).compile remoteBindings remoteDesign).outcome = .ok label := by
  have htext : remoteDocument.hasText = true := by decide +kernel
  have hread : (Design.ofValue none remoteDocument).outcome = .ok remoteDesign := by decide +kernel
  have hdefault : ∀ page, (none : Option Page) = some page → page.IsWritable :=
    fun page h => nomatch h
  refine ⟨htext, hread,
    (Design.compiles_iff hdefault htext hread remoteBindings).mpr fun e he hguide => ?_⟩
  rcases List.mem_cons.mp he with rfl | he
  · refine ⟨⟨⟨by decide +kernel, by decide +kernel⟩, ?_⟩,
      Element.showsValue_of_hasText (by decide +kernel) _⟩
    exact givesDots_iff.mpr (exists_eq_ok (by decide +kernel))
  rcases List.mem_pair.mp he with rfl | rfl
  · exact ⟨⟨by decide +kernel, by decide +kernel⟩, by decide +kernel, by decide +kernel,
      by decide +kernel⟩
  · have hstroke : isGuideStroke ({} : Target).guideColor (some "#f0f0f0") = true := by
      decide +kernel
    cases hstroke.symm.trans hguide

/-- A box to the left of all numbers of dots. -/
def adriftDocument : Value := .ofFields [narrowSection, ("elements", .list [
  .ofFields [("kind", .text "rectangle"), ("x", .number (.real (.infinity true))),
    ("width", .number 100), ("height", .number 50)]])]

def adriftDesign : Design where
  page := narrowPage
  elements := [
    .rectangle { position := ⟨.real (.infinity true), 0⟩, width := 100, height := 50 }]

theorem not_compiled_adrift : adriftDocument.hasText = true ∧
    (Design.ofValue none adriftDocument).outcome = .ok adriftDesign ∧
    (({} : Target).compile [] adriftDesign).outcome.map Label.text =
      .error (.arithmetic .infinityToInteger) :=
  ⟨by decide +kernel, by decide +kernel, by decide +kernel⟩

end LabelPress
