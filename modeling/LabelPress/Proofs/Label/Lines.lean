import Mathlib
import LabelPress.Proofs.Command.Operands
import LabelPress.Proofs.Label.SymbolData
import LabelPress.Text.Lines

/-!
# The lines of a label

A label puts every command on a line of its own, but a line feed in a printed text is no reserved
character and is written as it stands. So a label has one more line for each line feed that one of
its texts or symbols prints.
-/

namespace LabelPress

namespace Text

theorem length_splitLines (t : Text) : (splitLines t).length = t.count (.char '\n') + 1 := by
  rw [splitLines, List.splitOn_eq_splitOnP]
  induction t with
  | nil => rfl
  | cons c t ih =>
    rw [List.splitOnP_cons_eq_if_modifyHead, List.count_cons]
    by_cases hc : c = .char '\n'
    · simp [hc, ih]
    · simp [hc, ih]

/-- Texts with line feeds between them have as many lines as they have together. -/
theorem length_splitLines_join {ts : List Text} (hts : ts ≠ []) :
    (splitLines (join "\n" ts)).length = (ts.map fun t => (splitLines t).length).sum := by
  induction ts with
  | nil => exact absurd rfl hts
  | cons t ts ih =>
    cases ts with
    | nil => simp [join]
    | cons u ts =>
      have hjoin : join "\n" (t :: u :: ts) = t ++ "\n" ++ join "\n" (u :: ts) := by
        rw [join, List.intercalate_cons_cons, join]
      have hfeed : ("\n" : Text).count (.char '\n') = 1 := rfl
      rw [List.map_cons, List.sum_cons, ← ih (List.cons_ne_nil u ts), hjoin, length_splitLines,
        length_splitLines, length_splitLines, List.count_append, List.count_append, hfeed]
      omega

end Text

def IsLine (t : Text) : Prop := .char '\n' ∉ t

instance (t : Text) : Decidable (IsLine t) := inferInstanceAs (Decidable (_ ∉ _))

namespace IsLine
variable {t u : Text}

theorem append (ht : IsLine t) (hu : IsLine u) : IsLine (t ++ u) := by
  rw [IsLine, List.mem_append]
  exact not_or.mpr ⟨ht, hu⟩

theorem of_isWord (h : IsWord t) : IsLine t := fun hmem => absurd (h _ hmem).1 (by decide)

theorem operands (lead : Text) {ts : List Text} (hlead : IsLine lead)
    (hwords : (t :: ts).Forall IsWord) : IsLine (Command.operands ((lead ++ t) :: ts)) := by
  have hargs := isOperand_of_words (List.forall_iff_forall_mem.mp hwords)
  rw [operands_lead]
  exact hlead.append fun hmem => absurd (hargs _ hmem) (by decide)

end IsLine

namespace Command

def lineFeeds : Command → Nat
  | data s => s.count (.char '\n')
  | _ => 0

theorem isLine_barcodeText (s : Symbology) (o : Orientation) (height : Nat) :
    IsLine (barcodeText s o height) := by
  have hy : IsWord "Y" := by decide
  have hn : IsWord "N" := by decide
  have ho := isWord_letter o
  have hh := isWord_nat height
  cases s with
  | code128 => exact .operands "^BC" (by decide) ⟨ho, hh, hy, hn, hn⟩
  | code39 => exact .operands "^B3" (by decide) ⟨ho, hn, hh, hy, hn⟩
  | code93 => exact .operands "^BA" (by decide) ⟨ho, hh, hy, hn, hn⟩
  | ean13 => exact .operands "^BE" (by decide) ⟨ho, hh, hy, hn⟩
  | ean8 => exact .operands "^B8" (by decide) ⟨ho, hh, hy, hn⟩
  | upc => exact .operands "^BU" (by decide) ⟨ho, hh, hy, hn, hy⟩

/-- A command that carries no text stands on one line. -/
theorem isLine_text {c : Command} (h : ∀ s, c ≠ data s) : IsLine c.text := by
  have hend : IsLine "^FS" := by decide
  cases c with
  | startFormat => decide
  | encodeUtf8 => decide
  | printWidth dots => exact .append (t := "^PW") (by decide) (.of_isWord (isWord_nat dots))
  | labelLength dots => exact .append (t := "^LL") (by decide) (.of_isWord (isWord_nat dots))
  | labelHome => decide
  | origin x y => exact .operands "^FO" (by decide) ⟨isWord_nat x, isWord_nat y⟩
  | font o size =>
    exact .operands "^A0" (by decide) ⟨isWord_letter o, isWord_int size, isWord_int size⟩
  | data s => exact absurd rfl (h s)
  | box width height thickness filled =>
    have hfilled : IsLine (Text.ofString (if filled then ",B" else "")) := by
      cases filled <;> decide
    have hbox : IsLine (operands ["^GB" ++ toString width, toString height, toString thickness]) :=
      .operands "^GB" (by decide) ⟨isWord_nat width, isWord_nat height, isWord_nat thickness⟩
    exact (hbox.append hfilled).append hend
  | diagonal dx dy thickness =>
    have hempty : IsWord "" := by decide
    have hright : IsWord "R" := by decide
    have hline : IsLine (operands ["^GD" ++ toString dx, toString dy, toString thickness,
        "", "R"]) :=
      .operands "^GD" (by decide)
        ⟨isWord_int dx, isWord_int dy, isWord_nat thickness, hempty, hright⟩
    exact hline.append hend
  | circle diameter thickness =>
    have hcircle : IsLine (operands ["^GC" ++ toString diameter, toString thickness]) :=
      .operands "^GC" (by decide) ⟨isWord_nat diameter, isWord_nat thickness⟩
    exact hcircle.append hend
  | ellipse width height thickness =>
    have hellipse : IsLine (operands ["^GE" ++ toString width, toString height,
        toString thickness]) :=
      .operands "^GE" (by decide) ⟨isWord_nat width, isWord_nat height, isWord_nat thickness⟩
    exact hellipse.append hend
  | barcode s o height => exact isLine_barcodeText s o height
  | qr magnification =>
    have hn : IsWord "N" := by decide
    have htwo : IsWord "2" := by decide
    exact .operands "^BQ" (by decide) ⟨hn, htwo, isWord_nat magnification⟩
  | imageMarker => decide
  | quantity copies => exact .append (t := "^PQ") (by decide) (.of_isWord (isWord_nat copies))
  | endFormat => decide

theorem count_escape (s : Text) :
    (FieldData.escape s).count (.char '\n') = s.count (.char '\n') := by
  -- A line feed is not reserved, and no escape is written with one.
  have hdigits : ∀ entry ∈ FieldData.reserved, .char '\n' ∉
      ([↑FieldData.indicator, ↑entry.2.1, ↑entry.2.2] : Text) ∧
        (entry.1 : CodePoint) ≠ .char '\n' := by
    decide
  induction s with
  | nil => rfl
  | cons c s ih =>
    have hpoint : (FieldData.escapePoint c).count (.char '\n') = [c].count (.char '\n') := by
      rcases FieldData.escapePoint_cases c with ⟨entry, hentry, rfl, hpoint⟩ | ⟨-, hpoint⟩
      · obtain ⟨hwritten, hread⟩ := hdigits entry hentry
        have hother : [(entry.1 : CodePoint)].count (.char '\n') = 0 :=
          List.count_eq_zero.mpr fun hmem => hread (List.mem_singleton.mp hmem).symm
        rw [hpoint, List.count_eq_zero.mpr hwritten, hother]
      · rw [hpoint]
    have hsplit : FieldData.escape (c :: s) = FieldData.escapePoint c ++ FieldData.escape s := rfl
    rw [hsplit, List.count_append, hpoint, ih, ← List.count_append]
    rfl

theorem count_data (s : Text) : (data s).text.count (.char '\n') = s.count (.char '\n') := by
  have hlead : ("^FD" : Text).count (.char '\n') = 0 := by decide
  have htail : ("^FS" : Text).count (.char '\n') = 0 := by decide
  have hmark : (if FieldData.escape s = s then []
      else ['^', 'F', 'H', ↑FieldData.indicator] : Text).count (.char '\n') = 0 := by
    split <;> decide
  change (FieldData.command s).count (.char '\n') = _
  rw [FieldData.command, List.count_append, List.count_append, List.count_append, hmark, hlead,
    count_escape, htail, Nat.zero_add, Nat.add_zero]

theorem lineFeeds_eq_zero {c : Command} (h : ∀ s, c ≠ data s) : c.lineFeeds = 0 := by
  cases c with
  | data s => exact absurd rfl (h s)
  | _ => rfl

/-- A command has one line more than its data has line feeds. -/
theorem length_splitLines_text (c : Command) :
    (Text.splitLines c.text).length = 1 + c.lineFeeds := by
  rw [Text.length_splitLines, Nat.add_comm]
  by_cases hdata : ∃ s, c = data s
  · obtain ⟨s, rfl⟩ := hdata
    rw [count_data, lineFeeds]
  · have hnone (s : Text) : c ≠ data s := fun hs => hdata ⟨s, hs⟩
    rw [lineFeeds_eq_zero hnone, List.count_eq_zero.mpr (isLine_text hnone)]

end Command

theorem Label.length_splitLines_text {l : Label} (hne : l.commands ≠ []) :
    (Text.splitLines l.text).length =
      l.commandCount + (l.commands.map Command.lineFeeds).sum := by
  rw [text, Command.joined, Text.length_splitLines_join (mt List.map_eq_nil_iff.mp hne),
    List.map_map, commandCount]
  simp only [Function.comp_def, Command.length_splitLines_text]
  rw [List.sum_map_add]
  simp

/-! ## The texts of elements -/

namespace Element
variable {bindings : Entries} {catalog : Option Catalog}

def printed? (bindings : Entries) (catalog : Option Catalog) :
    Element → Option (Except Fault Text)
  | text t => some (t.content bindings catalog)
  | media m => m.symbol? bindings catalog
  | _ => none

def lineFeeds (bindings : Entries) (catalog : Option Catalog) (e : Element) : Nat :=
  match e.printed? bindings catalog with
  | some (.ok s) => s.count (.char '\n')
  | _ => 0

theorem lineFeeds_eq_zero_iff {e : Element} : e.lineFeeds bindings catalog = 0 ↔
    ∀ s, e.printed? bindings catalog = some (.ok s) → .char '\n' ∉ s := by
  unfold lineFeeds
  split
  · next s hs => simp [hs, List.count_eq_zero]
  · next hnone => exact iff_of_true rfl fun s hs => absurd hs (hnone s)

theorem lineFeeds_of_prints {m : Media} {cs : List Command} (h : m.Prints bindings catalog cs) :
    (cs.map Command.lineFeeds).sum = (media m).lineFeeds bindings catalog := by
  have hmode : Media.qrMode.count (.char '\n') = 0 := by decide
  cases h with
  | barcode x y symbology height hs => simp [Command.lineFeeds, lineFeeds, printed?, hs]
  | qr x y magnification hs => simp [Command.lineFeeds, lineFeeds, printed?, hs, hmode]
  | raster x y hs => simp [Command.lineFeeds, lineFeeds, printed?, hs]

/-- The commands of an element have the line feeds of the text that it prints, and no others. -/
theorem lineFeeds_commands {e : Element} {scale : Number} {cs : List Command} (hne : cs ≠ [])
    (h : (e.commands bindings catalog scale).outcome = .ok cs) :
    (cs.map Command.lineFeeds).sum = e.lineFeeds bindings catalog := by
  rw [commands_eq_ok] at h
  cases e with
  | text t =>
    obtain ⟨_, _, content, _, -, hcontent, -, rfl⟩ := TextField.commands_eq_ok.mp h
    simp [Command.lineFeeds, lineFeeds, printed?, hcontent]
  | rectangle r =>
    obtain ⟨_, _, _, _, _, -, -, -, -, rfl⟩ := Rectangle.commands_eq_ok.mp h
    rfl
  | line l =>
    obtain ⟨_, _, _, _, _, origin, -, -, -, -, -, h⟩ := Line.commands_eq_ok.mp h
    rcases h with ⟨-, ho, rfl⟩ | ⟨-, -, ho, rfl⟩ | ⟨-, -, ho, rfl⟩
    all_goals
      obtain ⟨_, _, rfl⟩ := Line.exists_of_origin ho
      rfl
  | circle c =>
    obtain ⟨_, _, _, _, -, -, -, ⟨-, _, -, rfl⟩ | ⟨-, rfl⟩⟩ := Circle.commands_eq_ok.mp h
    all_goals rfl
  | media m => exact lineFeeds_of_prints (Media.prints_of_commands hne h)

theorem lineFeeds_all {scale : Number} {es : List Element} {parts : List (List Command)}
    (h : List.Forall₂ (fun e part => part ≠ [] ∧
      (e.commands bindings catalog scale).outcome = .ok part) es parts) :
    (parts.flatten.map Command.lineFeeds).sum = (es.map (lineFeeds bindings catalog)).sum := by
  induction h with
  | nil => rfl
  | @cons e part es parts he _ ih =>
    rw [List.flatten_cons, List.map_append, List.sum_append, ih, lineFeeds_commands he.1 he.2,
      List.map_cons, List.sum_cons]

end Element

namespace Target
variable {t : Target} {bindings : Entries} {d : Design} {label : Label}

theorem length_splitLines_compile (h : (t.compile bindings d).outcome = .ok label) :
    (Text.splitLines label.text).length = label.commandCount +
      ((t.kept d.elements).map (Element.lineFeeds bindings t.catalog)).sum := by
  obtain ⟨parts, -, -, hparts, -, rfl⟩ := compile_eq_ok.mp h
  obtain ⟨kept, hflatten, hkept⟩ := exists_commands_kept hparts
  have hopening : ((Frame.openingCommands d.page t.labelHome).map Command.lineFeeds).sum = 0 := by
    cases t.labelHome <;> rfl
  have hclosing : ((Frame.closingCommands t.copies).map Command.lineFeeds).sum = 0 := by
    unfold Frame.closingCommands
    split <;> rfl
  rw [Label.length_splitLines_text (List.append_ne_nil_of_left_ne_nil
    (List.append_ne_nil_of_left_ne_nil (List.cons_ne_nil _ _) _) _)]
  simp only [List.map_append, List.sum_append, hopening, hclosing, ← hflatten,
    Element.lineFeeds_all hkept]
  rw [Nat.zero_add, Nat.add_zero]

/-- A label has one line more than commands for each line feed in the texts and symbols that it
prints, so it has as many exactly if none of them holds a line feed. -/
theorem commandCount_eq_lines_iff (h : (t.compile bindings d).outcome = .ok label) :
    (Text.splitLines label.text).length = label.commandCount +
      ((t.kept d.elements).map (Element.lineFeeds bindings t.catalog)).sum ∧
    (label.commandCount = (Text.splitLines label.text).length ↔
      ∀ e ∈ t.kept d.elements, ∀ s, e.printed? bindings t.catalog = some (.ok s) →
        .char '\n' ∉ s) := by
  have hlines := length_splitLines_compile h
  refine ⟨hlines, ?_⟩
  rw [hlines, left_eq_add, List.sum_eq_zero_iff_forall_eq_nat, List.forall_mem_map]
  simp only [Element.lineFeeds_eq_zero_iff]

end Target

def stackedDesign : Design where
  page := hostileDesign.page
  elements := [
    .text { position := ⟨10, 20⟩, text := "net\n12 kg" },
    .text { position := ⟨0, 0⟩, text := "a\n\nb", stroke := some "#F0F0F0" },
    .media { position := ⟨10, 60⟩, payload := .qr none, isDynamic := true, fieldKey := some "ct" }]

def stackedBindings : Entries := [(.text "ct", .text "^XZ\n~JA")]

theorem commandCount_eq_lines_iff_stacked : ∃ label,
    (({} : Target).compile stackedBindings stackedDesign).outcome = .ok label ∧
    label.commandCount = 11 ∧ (Text.splitLines label.text).length = 13 := by
  have hcount : (({} : Target).compile stackedBindings stackedDesign).outcome.map
      Label.commandCount = .ok 11 := by
    decide +kernel
  obtain ⟨label, hlabel, hcommands⟩ := map_eq_ok.mp hcount
  have hfeeds : ((({} : Target).kept stackedDesign.elements).map
      (Element.lineFeeds stackedBindings ({} : Target).catalog)).sum = 2 := by
    decide +kernel
  refine ⟨label, hlabel, hcommands, ?_⟩
  rw [(Target.commandCount_eq_lines_iff hlabel).1, hcommands, hfeeds]

def brokenDesign : Design where
  page := hostileDesign.page
  elements := [.text { position := ⟨0, 0⟩, text := "a\nb" }]

/-- The line feed of a text makes two lines of one command. -/
theorem fewer_commands_than_lines : ∃ label,
    (({} : Target).compile [] brokenDesign).outcome = .ok label ∧ label.commandCount = 8 ∧
    (Text.splitLines label.text).length = 9 := by
  have hcounts : (({} : Target).compile [] brokenDesign).outcome.map
      (fun label => (label.commandCount, (Text.splitLines label.text).length)) = .ok (8, 9) := by
    decide +kernel
  obtain ⟨label, hlabel, hcount⟩ := map_eq_ok.mp hcounts
  exact ⟨label, hlabel, Prod.mk.inj hcount⟩

end LabelPress
