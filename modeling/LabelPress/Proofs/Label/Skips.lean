import LabelPress.Proofs.Label.Skeleton

/-!
# What a label leaves out

Guides and barcodes of unsupported formats give no command, and nothing else does. Each of them is
counted and noted once, and a label is the same whether they are there or not.
-/

namespace LabelPress

/-- The format of a barcode that names no symbology, in any case and with white space around it. An
empty format stands for the default. -/
def Payload.unsupportedFormat? : Payload → Option Text
  | barcode format _ =>
    if Text.upper (Text.strip (formatName format)) ∈ Symbology.all.map Symbology.name then none
    else some format
  | _ => none

theorem Symbology.ofName?_eq_none_iff {format : Text} :
    ofName? format = none ↔ Text.upper (Text.strip format) ∉ all.map name := by
  simp only [ofName?, List.find?_eq_none, beq_iff_eq, List.mem_map, not_exists, not_and]

theorem Payload.unsupportedFormat?_barcode {format : Text} {value : Option Text} :
    (barcode format value).unsupportedFormat? =
      if (Symbology.ofName? (formatName format)).isSome then none else some format := by
  unfold unsupportedFormat?
  cases hname : Symbology.ofName? (formatName format) with
  | none => exact if_neg (Symbology.ofName?_eq_none_iff.mp hname)
  | some symbology =>
    have hmem := mt Symbology.ofName?_eq_none_iff.mpr (hname ▸ Option.some_ne_none symbology)
    exact if_pos (not_not.mp hmem)

theorem Payload.skeleton_eq_nil_iff {p : Payload} :
    p.skeleton = [] ↔ p.unsupportedFormat?.isSome = true := by
  cases p with
  | barcode format value =>
    rw [unsupportedFormat?_barcode]
    cases hname : Symbology.ofName? (formatName format) <;> simp [skeleton, hname]
  | qr value => simp [skeleton, unsupportedFormat?]
  | raster source => simp [skeleton, unsupportedFormat?]

/-- A barcode of an unsupported format gives no command and a note, and nothing can go wrong. -/
theorem Media.commands_of_unsupported {m : Media} {format : Text}
    (h : m.payload.unsupportedFormat? = some format) (bindings : Entries)
    (catalog : Option Catalog) :
    m.commands bindings catalog = ⟨[.droppedBarcode (Text.quoted format)], .ok []⟩ := by
  unfold commands
  cases hp : m.payload with
  | barcode format' value =>
    rw [hp, Payload.unsupportedFormat?_barcode] at h
    cases hname : Symbology.ofName? (Payload.formatName format') with
    | none =>
      rw [hname] at h
      cases h
      simp only [hname]
      rfl
    | some symbology =>
      rw [hname] at h
      cases h
  | qr value =>
    rw [hp] at h
    cases h
  | raster source =>
    rw [hp] at h
    cases h

theorem Media.notes_commands {m : Media} (h : m.payload.unsupportedFormat? = none)
    (bindings : Entries) (catalog : Option Catalog) : (m.commands bindings catalog).notes = [] := by
  unfold commands
  cases hp : m.payload with
  | barcode format value =>
    rw [hp, Payload.unsupportedFormat?_barcode] at h
    cases hname : Symbology.ofName? (Payload.formatName format) with
    | none =>
      rw [hname] at h
      cases h
    | some symbology =>
      simp only [hname]
      rfl
  | qr value => rfl
  | raster source => rfl

namespace Element
variable {guideColor : Text} {e : Element}

/-- The stroke has the colour of guides, in any case and with white space around it. -/
def IsMarkedAsGuide (guideColor : Text) (e : Element) : Prop :=
  ∃ s, e.stroke = some s ∧ Text.lower (Text.strip s) = Text.lower guideColor

theorem isGuide_iff : e.isGuide guideColor = true ↔ e.IsMarkedAsGuide guideColor := by
  unfold isGuide isGuideStroke IsMarkedAsGuide
  cases e.stroke <;> simp

instance : Decidable (e.IsMarkedAsGuide guideColor) := decidable_of_iff _ isGuide_iff

def unsupportedFormat? : Element → Option Text
  | media m => m.payload.unsupportedFormat?
  | _ => none

/-- An element gives no command: it is a guide, or a barcode of an unsupported format. -/
def IsSkipped (guideColor : Text) (e : Element) : Prop :=
  e.IsMarkedAsGuide guideColor ∨ e.unsupportedFormat?.isSome = true

instance : Decidable (e.IsSkipped guideColor) := inferInstanceAs (Decidable (_ ∨ _))

def skipNote? (guideColor : Text) (e : Element) : Option Note :=
  if e.IsMarkedAsGuide guideColor then some (.skippedGuide e.kind.typeName)
  else e.unsupportedFormat?.map fun format => .droppedBarcode (Text.quoted format)

theorem skipNote?_eq_none (h : ¬e.IsSkipped guideColor) : e.skipNote? guideColor = none := by
  obtain ⟨hguide, hformat⟩ := not_or.mp h
  rw [skipNote?, if_neg hguide, Option.not_isSome_iff_eq_none.mp hformat, Option.map_none]

theorem skeleton_eq_nil_iff : e.skeleton guideColor = [] ↔ e.IsSkipped guideColor := by
  unfold skeleton IsSkipped
  rw [← isGuide_iff]
  cases e.isGuide guideColor with
  | true => simp
  | false =>
    simp only [Bool.false_eq_true, if_false, false_or]
    cases e with
    | text t => simp [unsupportedFormat?]
    | rectangle r => simp [unsupportedFormat?]
    | line l =>
      simp only [unsupportedFormat?, Line.skeleton]
      split <;> simp
    | circle c =>
      simp only [unsupportedFormat?, Circle.skeleton]
      split <;> simp
    | media m => exact Payload.skeleton_eq_nil_iff

end Element

namespace Target
variable {t : Target} {bindings : Entries} {e : Element}

/-- A skipped element is encoded without fail, as nothing, with the note on it. -/
theorem encode_of_isSkipped (bindings : Entries) (h : e.IsSkipped t.guideColor) :
    ∃ note, e.skipNote? t.guideColor = some note ∧ t.encode bindings e = ⟨[note], .ok []⟩ := by
  unfold encode Element.skipNote?
  by_cases hguide : e.IsMarkedAsGuide t.guideColor
  · rw [if_pos hguide, if_pos (Element.isGuide_iff.mpr hguide)]
    exact ⟨_, rfl, rfl⟩
  · rw [if_neg hguide, if_neg (mt Element.isGuide_iff.mp hguide)]
    obtain ⟨format, hformat⟩ := Option.isSome_iff_exists.mp (h.resolve_left hguide)
    rw [hformat]
    refine ⟨_, rfl, ?_⟩
    cases e with
    | media m => exact Media.commands_of_unsupported hformat bindings t.catalog
    | _ => cases hformat

/-- Encoding an element that is not skipped takes no note. -/
theorem notes_encode_of_not_isSkipped (h : ¬e.IsSkipped t.guideColor) :
    (t.encode bindings e).notes = [] := by
  obtain ⟨hguide, hformat⟩ := not_or.mp h
  rw [encode, if_neg (mt Element.isGuide_iff.mp hguide)]
  cases e with
  | media m => exact Media.notes_commands (Option.not_isSome_iff_eq_none.mp hformat) bindings _
  | _ => rfl

/-- An element gives no command exactly if it is skipped. -/
theorem outcome_encode_eq_nil_iff :
    (t.encode bindings e).outcome = .ok [] ↔ e.IsSkipped t.guideColor := by
  refine ⟨fun h => Element.skeleton_eq_nil_iff.mp (Element.names_encode h).symm, fun h => ?_⟩
  obtain ⟨note, -, hencode⟩ := encode_of_isSkipped bindings h
  rw [hencode]

theorem notes_encode :
    (t.encode bindings e).notes = (e.skipNote? t.guideColor).toList := by
  by_cases h : e.IsSkipped t.guideColor
  · obtain ⟨note, hnote, hencode⟩ := encode_of_isSkipped bindings h
    rw [hnote, hencode]
    rfl
  · rw [notes_encode_of_not_isSkipped h, Element.skipNote?_eq_none h]
    rfl

def kept (t : Target) (es : List Element) : List Element :=
  es.filter fun e => ¬e.IsSkipped t.guideColor

theorem kept_cons_of_isSkipped (h : e.IsSkipped t.guideColor) (es : List Element) :
    t.kept (e :: es) = t.kept es :=
  List.filter_cons_of_neg (by simpa using h)

theorem kept_cons_of_not_isSkipped (h : ¬e.IsSkipped t.guideColor) (es : List Element) :
    t.kept (e :: es) = e :: t.kept es :=
  List.filter_cons_of_pos (by simpa using h)

/-- An element that is not skipped is encoded as the commands that print it, and there are some. -/
theorem commands_of_encode {part : List Command} (h : ¬e.IsSkipped t.guideColor)
    (he : (t.encode bindings e).outcome = .ok part) :
    part ≠ [] ∧ (e.commands bindings t.catalog t.fontScale).outcome = .ok part := by
  refine ⟨?_, ?_⟩
  · rintro rfl
    exact h (outcome_encode_eq_nil_iff.mp he)
  · rcases encode_eq_ok.mp he with ⟨hguide, -⟩ | ⟨-, hcommands⟩
    · exact absurd (.inl (Element.isGuide_iff.mp hguide)) h
    · exact hcommands

/-- Going through the elements gives the commands that print the kept ones. -/
theorem exists_commands_kept {es : List Element} {parts : List (List Command)}
    (h : List.Forall₂ (fun e part => (t.encode bindings e).outcome = .ok part) es parts) :
    ∃ kept, kept.flatten = parts.flatten ∧
      List.Forall₂ (fun e part => part ≠ [] ∧
        (e.commands bindings t.catalog t.fontScale).outcome = .ok part) (t.kept es) kept := by
  induction h with
  | nil => exact ⟨[], rfl, .nil⟩
  | @cons e part es parts he _ ih =>
    obtain ⟨kept, hflatten, hkept⟩ := ih
    by_cases hskipped : e.IsSkipped t.guideColor
    · rw [outcome_encode_eq_nil_iff.mpr hskipped] at he
      cases he
      rw [kept_cons_of_isSkipped hskipped]
      exact ⟨kept, hflatten, hkept⟩
    · rw [kept_cons_of_not_isSkipped hskipped, List.flatten_cons, ← hflatten]
      exact ⟨part :: kept, rfl, .cons (commands_of_encode hskipped he) hkept⟩

/-- The notes on the elements of a list are those on the skipped ones. -/
theorem notes_encode_all (es : List Element) :
    (es.flatMap fun e => (t.encode bindings e).notes).map some =
      (es.filter (·.IsSkipped t.guideColor)).map (Element.skipNote? t.guideColor) := by
  induction es with
  | nil => rfl
  | cons e es ih =>
    rw [List.flatMap_cons, List.map_append, ih, notes_encode]
    by_cases h : e.IsSkipped t.guideColor
    · obtain ⟨note, hnote, -⟩ := encode_of_isSkipped bindings h
      rw [List.filter_cons, if_pos (decide_eq_true h), List.map_cons, hnote]
      rfl
    · rw [List.filter_cons, if_neg (mt of_decide_eq_true h), Element.skipNote?_eq_none h]
      rfl

/-- As many elements give no command as are skipped. -/
theorem emptyCount_encode_all {es : List Element} {parts : List (List Command)}
    (h : List.Forall₂ (fun e part => (t.encode bindings e).outcome = .ok part) es parts) :
    Label.emptyCount parts = es.countP (·.IsSkipped t.guideColor) := by
  induction h with
  | nil => rfl
  | @cons e part es parts he _ ih =>
    have hempty : part.isEmpty = decide (e.IsSkipped t.guideColor) := by
      have hnil : (t.encode bindings e).outcome = .ok [] ↔ e.IsSkipped t.guideColor :=
        outcome_encode_eq_nil_iff
      rw [Bool.eq_iff_iff, List.isEmpty_iff, decide_eq_true_iff, ← hnil, he, Except.ok.injEq]
    rw [Label.emptyCount, List.countP_cons, List.countP_cons, hempty, ← ih, Label.emptyCount]

/-- The commands of the elements of a list are those of the kept ones. -/
theorem encode_all_kept (bindings : Entries) (es : List Element) :
    (Journaled.forEach (t.encode bindings) es).outcome.map List.flatten =
      (Journaled.forEach (t.encode bindings) (t.kept es)).outcome.map List.flatten := by
  have hcons : ∀ (e : Element) (es : List Element),
      (Journaled.forEach (t.encode bindings) (e :: es)).outcome.map List.flatten =
        (t.encode bindings e).outcome >>= fun part =>
          ((Journaled.forEach (t.encode bindings) es).outcome.map List.flatten).map (part ++ ·) := by
    intro e es
    simp only [Journaled.forEach, Journaled.outcome_bind, Journaled.outcome_pure]
    cases (t.encode bindings e).outcome with
    | error fault => rfl
    | ok part => cases (Journaled.forEach (t.encode bindings) es).outcome <;> rfl
  induction es with
  | nil => rfl
  | cons e es ih =>
    by_cases h : e.IsSkipped t.guideColor
    · rw [hcons, outcome_encode_eq_nil_iff.mpr h, kept_cons_of_isSkipped h, ← ih]
      cases (Journaled.forEach (t.encode bindings) es).outcome <;> rfl
    · rw [hcons, ih, kept_cons_of_not_isSkipped h, hcons]

/-- The text of a label is made of its page and of the commands of its elements. -/
theorem outcome_text_compile (t : Target) (bindings : Entries) (d : Design) :
    (t.compile bindings d).outcome.map Label.text = do
      let opening ← Frame.opening d.page t.labelHome
      let commands ← (Journaled.forEach (t.encode bindings) d.elements).outcome.map List.flatten
      let closing ← Frame.closing t.copies
      return Command.joined ((opening ++ commands ++ closing).map Command.text) := by
  simp only [compile, assemble, Journaled.outcome_bind, Journaled.outcome_lift]
  cases Frame.opening d.page t.labelHome with
  | error fault => rfl
  | ok opening =>
    cases (Journaled.forEach (t.encode bindings) d.elements).outcome with
    | error fault => rfl
    | ok parts => cases Frame.closing t.copies <;> rfl

/-- Compiling takes the notes on the skipped elements, in order, and no others. -/
theorem notes_compile {d : Design} {label : Label}
    (h : (t.compile bindings d).outcome = .ok label) :
    (t.compile bindings d).notes = d.elements.flatMap fun e => (t.encode bindings e).notes := by
  simp only [compile, assemble, Journaled.outcome_bind_eq_ok] at h
  obtain ⟨opening, hopening, parts, hparts, closing, hclosing, -⟩ := h
  rw [compile, assemble, Journaled.notes_bind_of_ok hopening, Journaled.notes_bind_of_ok hparts,
    Journaled.notes_bind_of_ok hclosing, Journaled.notes_forEach hparts]
  simp only [Journaled.notes_lift, Journaled.notes_pure, List.nil_append, List.append_nil]

/-- Guides and barcodes of unsupported formats, and they alone, give no command. They are counted and
noted, each once and in order, and a design with more or fewer of them, wherever they stand, gives the
same text. -/
theorem skips_accounted (t : Target) (bindings : Entries) (d : Design) :
    (∀ e, (t.encode bindings e).outcome = .ok [] ↔ e.IsSkipped t.guideColor) ∧
    (∀ label, (t.compile bindings d).outcome = .ok label →
      label.skippedCount = d.elements.countP (·.IsSkipped t.guideColor) ∧
      (t.compile bindings d).notes.map some =
        (d.elements.filter (·.IsSkipped t.guideColor)).map (Element.skipNote? t.guideColor)) ∧
    ∀ d' : Design, d'.page = d.page → t.kept d'.elements = t.kept d.elements →
      (t.compile bindings d').outcome.map Label.text =
        (t.compile bindings d).outcome.map Label.text := by
  refine ⟨fun e => outcome_encode_eq_nil_iff, fun label h => ⟨?_, ?_⟩, fun d' hpage hkept => ?_⟩
  · obtain ⟨parts, -, -, hparts, -, rfl⟩ := compile_eq_ok.mp h
    exact emptyCount_encode_all hparts
  · rw [notes_compile h, notes_encode_all]
  · rw [outcome_text_compile, outcome_text_compile, hpage, encode_all_kept bindings d'.elements,
      hkept, ← encode_all_kept]

end Target

def mixedElements : List Element := [
  .line { position := ⟨0, 0⟩, stroke := some " #F0F0F0\n" },
  .media { position := ⟨10, 60⟩, payload := .barcode "qr-code" none },
  .media { position := ⟨10, 90⟩, payload := .barcode " ean13" none },
  .text { position := ⟨10, 20⟩, text := "kept" }]

def mixedDesign : Design := ⟨hostileDesign.page, mixedElements⟩

def sparseDesign : Design := ⟨mixedDesign.page, mixedElements.drop 2 ++ mixedElements.take 1⟩

theorem skips_accounted_mixed : ∃ label,
    (({} : Target).compile [] mixedDesign).outcome = .ok label ∧ label.skippedCount = 2 ∧
    (({} : Target).compile [] mixedDesign).notes =
      [.skippedGuide "LineElement", .droppedBarcode "'qr-code'"] ∧
    (({} : Target).compile [] sparseDesign).outcome.map Label.text = .ok label.text := by
  have hok : (({} : Target).compile [] mixedDesign).outcome.isOk = true := by decide +kernel
  obtain ⟨label, hlabel⟩ := exists_eq_ok hok
  obtain ⟨-, haccount, hsame⟩ := Target.skips_accounted {} [] mixedDesign
  obtain ⟨hcount, hnotes⟩ := haccount label hlabel
  have hskipped : mixedDesign.elements.countP (·.IsSkipped ({} : Target).guideColor) = 2 := by
    decide +kernel
  have hnoted : (mixedDesign.elements.filter (·.IsSkipped ({} : Target).guideColor)).map
      (Element.skipNote? ({} : Target).guideColor) =
        [Note.skippedGuide "LineElement", .droppedBarcode "'qr-code'"].map some := by
    decide +kernel
  have hkept : ({} : Target).kept sparseDesign.elements = ({} : Target).kept mixedDesign.elements := by
    decide +kernel
  refine ⟨label, hlabel, hcount.trans hskipped, ?_, ?_⟩
  · exact List.map_injective_iff.mpr (fun _ _ => Option.some.inj) (hnotes.trans hnoted)
  · rw [hsame sparseDesign rfl hkept, hlabel]
    rfl

end LabelPress
