import LabelPress.Proofs.Document.Printable
import LabelPress.Proofs.Label.Skips
import LabelPress.Proofs.Settings.Load
import LabelPress.Proofs.Text.Blank

/-!
# Guides of a colour that settings name

Guides are known by their stroke, whatever white space stands around it. The colour that settings
name is not trimmed, and so guides of a colour with white space at an end are printed.
-/

namespace LabelPress

/-- The same label, with one more element that is skipped. -/
def Label.withSkipped (l : Label) : Label :=
  { l with elementCount := l.elementCount + 1, skippedCount := l.skippedCount + 1 }

namespace Target
variable {t : Target} {bindings : Entries} {e : Element}

/-- An element gives no command. Wherever it stands in a design, it is counted as skipped, and all
else is as it is without it. -/
structure LeavesOut (t : Target) (bindings : Entries) (e : Element) : Prop where
  encode : (t.encode bindings e).outcome = .ok []
  compile : ∀ page before after,
    (t.compile bindings ⟨page, before ++ e :: after⟩).outcome =
      (t.compile bindings ⟨page, before ++ after⟩).outcome.map Label.withSkipped

theorem outcome_encode_all_insert (h : (t.encode bindings e).outcome = .ok [])
    (before after : List Element) :
    (Journaled.forEach (t.encode bindings) (before ++ e :: after)).outcome = do
      let first ← (Journaled.forEach (t.encode bindings) before).outcome
      return first ++ [] :: (← (Journaled.forEach (t.encode bindings) after).outcome) := by
  have hrest : (Journaled.forEach (t.encode bindings) (e :: after)).outcome = do
      return [] :: (← (Journaled.forEach (t.encode bindings) after).outcome) := by
    simp only [Journaled.forEach, Journaled.outcome_bind, h, Journaled.outcome_pure]
    rfl
  rw [Journaled.outcome_forEach_append, hrest]
  simp only [bind_assoc, pure_bind]

theorem LeavesOut.of_encode (h : (t.encode bindings e).outcome = .ok []) :
    t.LeavesOut bindings e := by
  refine ⟨h, fun page before after => ?_⟩
  simp only [Target.compile, assemble, Journaled.outcome_bind, outcome_encode_all_insert h,
    Journaled.outcome_forEach_append]
  cases (Frame.opening page t.labelHome : Journaled (List Command)).outcome with
  | error fault => rfl
  | ok opening =>
    cases (Journaled.forEach (t.encode bindings) before).outcome with
    | error fault => rfl
    | ok first =>
      cases (Journaled.forEach (t.encode bindings) after).outcome with
      | error fault => rfl
      | ok rest =>
        cases (Frame.closing t.copies : Journaled (List Command)).outcome with
        | error fault => rfl
        | ok closing =>
          have hflatten : (first ++ [] :: rest).flatten = (first ++ rest).flatten := by simp
          have hcount : Label.emptyCount (first ++ [] :: rest) =
              Label.emptyCount (first ++ rest) + 1 := by
            simp [Label.emptyCount, add_assoc]
          have hlength : (before ++ e :: after).length = (before ++ after).length + 1 := by
            simp [add_assoc]
          refine congrArg Except.ok ?_
          simp only [Label.withSkipped, hflatten, hcount, hlength]

theorem leavesOut_iff : t.LeavesOut bindings e ↔ e.IsSkipped t.guideColor :=
  ⟨fun h => outcome_encode_eq_nil_iff.mp h.encode,
    fun h => .of_encode (outcome_encode_eq_nil_iff.mpr h)⟩

end Target

/-- A stroke that differs from a colour in nothing but white space at the ends marks guides of that
colour exactly if the colour itself has no such white space. -/
theorem Element.isMarkedAsGuide_iff {color stroke : Text} {e : Element}
    (hstroke : e.stroke = some stroke) (h : stroke.AgreesWithin color) :
    e.IsMarkedAsGuide color ↔ color.IsTrimmed := by
  simp only [IsMarkedAsGuide, hstroke, Option.some.injEq, exists_eq_left', h.strip_eq]
  exact Text.lower_strip_eq_iff

namespace Settings

/-- Whatever the settings, an element whose stroke has the colour of guides, but for white space at
the ends, is left out of labels exactly if that colour has no white space at its ends. Elements that
are left out for another reason are so in any case. -/
theorem guide_leftOut_iff (s : Settings) (catalog : Option Catalog)
    (copies : { n : Nat // 0 < n }) (bindings : Entries) {e : Element} {stroke : Text}
    (hstroke : e.stroke = some stroke) (h : stroke.AgreesWithin s.guideColor) :
    (s.target catalog copies).LeavesOut bindings e ↔
      s.guideColor.IsTrimmed ∨ e.unsupportedFormat?.isSome = true := by
  rw [Target.leavesOut_iff, Element.IsSkipped, ← Element.isMarkedAsGuide_iff hstroke h]
  rfl

def strokedLine (stroke : Text) : Element := .line { position := ⟨0, 0⟩, stroke := some stroke }

theorem guide_leftOut_crlf :
    (strokedLine "\t#f0f0f0\r\n").stroke = some "\t#f0f0f0\r\n" ∧
    Text.AgreesWithin "\t#f0f0f0\r\n" packaged.guideColor ∧
    (packaged.target none ⟨2, Nat.two_pos⟩).LeavesOut [] (strokedLine "\t#f0f0f0\r\n") := by
  have hwithin : Text.AgreesWithin "\t#f0f0f0\r\n" packaged.guideColor :=
    ⟨"#f0f0f0", ⟨"\t", "\r\n", by decide, by decide⟩, ⟨[], [], by decide, by decide⟩⟩
  exact ⟨rfl, hwithin, (guide_leftOut_iff packaged none ⟨2, Nat.two_pos⟩ [] rfl hwithin).mpr
    (.inl ⟨by decide, by decide⟩)⟩

/-- A file of settings whose colour of guides has white space around it. -/
def spacedFile : FileTree := loneFile "c.yaml" (Text.Utf8.encode "guide_color: ' red '\n")

section Examples
attribute [local instance] Host.plain

theorem spacedGuide_prints : ∃ s, (load spacedFile (some "c.yaml")).outcome = .ok s ∧
    (strokedLine s.guideColor).stroke = some s.guideColor ∧
    ((s.target none ⟨1, Nat.one_pos⟩).encode [] (strokedLine s.guideColor)).outcome =
      .ok [.origin 0 0, .box 100 1 1 false] :=
  ⟨{ packaged with guideColor := " red " }, by decide +kernel, rfl, by decide +kernel⟩

end Examples

end Settings
end LabelPress
