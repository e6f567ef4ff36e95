import LabelPress.Proofs.CommandLine.Preview
import LabelPress.Proofs.Terminal.Markup

/-!
# Reports of designs that cannot be loaded

A command whose design is refused ends with a report on the standard error output and has done
nothing else. The report is printed as text with styles, so it says what the refusal says only where
markup leaves that alone; otherwise part of it is lost, or the run ends with a fault of its own.
-/

namespace LabelPress.CommandLine

open Program

/-- The words of a run that is not verbose call a command on a design file. -/
inductive CallsOn [Host] (files : FileTree) (words : List Text) (settings : Settings)
    (file : Text) : Prop
  | compile {r : CompileRequest} {told : Text}
      (h : CallsCompile files words false settings r told) (hfile : r.file = file)
  | preview {o : PreviewOrder} (h : CallsPreview files words false settings o)
      (hfile : o.file = file)

/-- A run ends with the report of an error and has put out nothing else. -/
structure Ending.Reports (e : Ending) (message : Text) : Prop where
  exitCode : e.exitCode = 1
  escaped : e.escaped = none
  out : e.world.out = []
  err : e.world.err = "Error: " ++ message ++ "\n"

theorem escapeHalves_of_isWhole {t : Text} (h : t.IsWhole) : escapeHalves t = t := by
  induction t with
  | nil => rfl
  | cons c t ih =>
    obtain ⟨hc, ht⟩ := List.forall_mem_cons.mp h
    cases c with
    | half _ => cases hc
    | char c => exact congrArg (CodePoint.char c :: ·) (ih ht)

theorem isWhole_of_isAscii {t : Text} (h : t.IsAscii) : t.IsWhole := by
  intro c hc
  cases c with
  | char _ => rfl
  | half half =>
    have hascii := (h _ hc).2
    have hlower := half.lower
    change half.code < 0x7F at hascii
    omega

/-- A line of ASCII behind other words is put out as it is. -/
theorem escapeHalves_line (words : String) {t : Text} (h : t.IsAscii) :
    escapeHalves (words ++ t ++ "\n") = words ++ t ++ "\n" := by
  have hline : Text.IsWhole (words ++ t) :=
    (Text.isWhole_ofString words).append (isWhole_of_isAscii h)
  exact escapeHalves_of_isWhole (hline.append (Text.isWhole_ofString "\n"))

/-- Escapes are what a text is shown with. -/
theorem cues_escapeHalves (t : Text) : Terminal.cues (escapeHalves t) = Terminal.cues t := by
  induction t with
  | nil => rfl
  | cons c t ih =>
    have htail : Terminal.cues (escapeHalves (c :: t)) =
        Terminal.cues (escapeHalves [c]) + Terminal.cues (escapeHalves t) := by
      simp only [escapeHalves, List.flatMap_cons, List.flatMap_nil, List.append_nil,
        Terminal.cues_append]
    rw [htail, ih, Terminal.cues_cons]
    cases c with
    | char c => rfl
    | half half =>
      have hescape : escapeHalves [.half half] = Text.ofChars (Text.codeEscape half.code) :=
        List.append_nil _
      rw [hescape, Terminal.cues_ofChars]
      rfl

section Report
variable [Host] {service : Service} {files : FileTree} {words : List Text} {settings : Settings}
  {file : Text} {fault : Fault} {w w' : World}

theorem stops_failWith {α : Type} {t shown : Text} (h : Terminal.shownMarkup t = .ok shown) :
    (failWith t : Program α).Stops w (.exit 1) { w with err := w.err ++ escapeHalves shown } := by
  have hneed : (Program.shown t).Ends w shown w := ends_need.mpr ⟨h, rfl⟩
  exact run_bind_of_ends hneed

theorem stops_failWith_of_error {α : Type} {t : Text} (h : Terminal.shownMarkup t = .error fault) :
    (failWith t : Program α).Stops w (.escaped fault) w := by
  refine stops_bind_of_stops ?_
  rw [Program.shown, h]
  rfl

/-- A design that cannot be loaded ends the part of a run that needs it, with a report. -/
theorem stops_loadDesign {s : Stop}
    (hfault : (designOf w.files settings file).outcome = .error fault)
    (hdesign : isDesignFault fault = true)
    (hreport : (failWithError fault.message : Program Design).Stops w s w') :
    (loadDesign false settings file).Stops w s w' := by
  have hget : (get : Program World).Ends w w w := ends_get.mpr ⟨rfl, rfl⟩
  have houtcome : (journaled false (designOf w.files settings file)).Ends w (.error fault) w :=
    ends_journaled.mpr ⟨hfault.symm, rfl⟩
  rw [Stops, loadDesign, run_bind_of_ends hget, run_bind_of_ends houtcome]
  simp only [hdesign, if_true]
  exact hreport

/-- A run that is not verbose turns to its command with nothing done. -/
theorem CallsOn.reaches (h : CallsOn files words settings file) (service : Service) :
    ∃ rest : Design → Program Unit,
      Reaches service files words (loadDesign false settings file >>= rest) { files } := by
  cases h with
  | compile h hfile =>
    obtain ⟨_, hlaunch, -⟩ := id h
    obtain ⟨notes, hworld⟩ := ends_launch hlaunch
    have hreaches : Reaches service files words _ _ := h.reaches
    rw [hworld, CommandLine.compile, hfile] at hreaches
    exact ⟨_, hreaches⟩
  | preview h hfile =>
    obtain ⟨rest, told, hlaunch, ho⟩ := h
    obtain ⟨notes, hworld⟩ := ends_launch hlaunch
    rw [hworld] at hlaunch
    have hreaches := reaches_preview hlaunch ho service
    rw [CommandLine.preview, hfile] at hreaches
    exact ⟨_, hreaches⟩

/-- A run whose design is refused ends with what the terminal makes of the report, or with the fault
that keeps the report from being shown. -/
theorem CallsOn.run_eq (h : CallsOn files words settings file) (service : Service)
    (hfault : (designOf files settings file).outcome = .error fault)
    (hdesign : isDesignFault fault = true) : run service files words =
      match Terminal.shownMarkup (Terminal.errorHeading ++ fault.message) with
      | .ok shown => ⟨{ files, err := escapeHalves shown }, 1, none⟩
      | .error fault => ⟨{ files }, 1, some fault⟩ := by
  obtain ⟨rest, hreaches⟩ := h.reaches service
  split
  · next shown hshown =>
    have hreport := stops_failWith (α := Design) (w := { files }) hshown
    exact hreaches.run_of_stops (stops_bind_of_stops (stops_loadDesign hfault hdesign hreport))
  · next hshown =>
    have hreport := stops_failWith_of_error (α := Design) (w := { files }) hshown
    exact hreaches.run_of_stops (stops_bind_of_stops (stops_loadDesign hfault hdesign hreport))

/-- A refused design is all that a run tells of exactly where markup and the names of emoji leave
the refusal alone. In any case the run fails and has done nothing else. -/
theorem load_error_reported (service : Service) (hcalls : CallsOn files words settings file)
    (hfault : (designOf files settings file).outcome = .error fault)
    (hdesign : isDesignFault fault = true) (hascii : fault.message.IsAscii)
    (hfits : ("Error: " ++ fault.message : Text).length < Host.columns) :
    (∃ err, (run service files words).world = { files, err } ∧
      (run service files words).exitCode = 1) ∧
    ((run service files words).Reports fault.message ↔ Terminal.IsPlain fault.message) := by
  have hrun := hcalls.run_eq service hfault hdesign
  refine ⟨?_, fun hreports => ?_, fun hplain => ?_⟩
  · rw [hrun]
    split
    · exact ⟨_, rfl, rfl⟩
    · exact ⟨_, rfl, rfl⟩
  · split at hrun
    · next shown hshown =>
      have hcues := congrArg Terminal.cues hreports.err
      rw [hrun, cues_escapeHalves, Terminal.cues_append] at hcues
      exact Terminal.isPlain_of_cues hshown (Nat.le_of_add_right_le hcues.symm.le)
    · have hescaped := hreports.escaped
      rw [hrun] at hescaped
      cases hescaped
  · rw [Terminal.shownMarkup_of_isPlain hplain hascii hfits] at hrun
    rw [hrun]
    exact ⟨rfl, rfl, rfl, escapeHalves_line "Error: " hascii⟩

def misplaced (x : String) : FileTree :=
  inputFiles ("\x7b\"elements\": [\x7b\"kind\": \"text\", \"x\": \"" ++ x ++ "\"\x7d]\x7d") ""

def misplacedFault (x : String) : Fault := .design (.notNumber "x" (("'" : Text) ++ x ++ "'"))

def compiledWords : List Text := ["compile", "d.json"]

def previewedWords : List Text := ["preview", "d.json", "-o", "p.png"]

theorem callsOn_compiledWords (files : FileTree) :
    CallsOn files compiledWords .packaged "d.json" :=
  .compile (⟨_, launch_plain rfl rfl, rfl⟩ : CallsCompile files compiledWords _ _ _ "") rfl

theorem callsOn_previewedWords (files : FileTree) :
    CallsOn files previewedWords .packaged "d.json" :=
  .preview ⟨_, "", launch_plain rfl rfl, rfl⟩ rfl

end Report

section Examples
attribute [local instance] Host.plain

theorem load_error_reported_unstyled :
    (designOf (misplaced "[B]") .packaged "d.json").outcome = .error (misplacedFault "[B]") ∧
    Terminal.IsPlain (misplacedFault "[B]").message ∧
    (run noService (misplaced "[B]") compiledWords).Reports (misplacedFault "[B]").message ∧
    (run noService (misplaced "[B]") previewedWords).Reports (misplacedFault "[B]").message := by
  have hfault : (designOf (misplaced "[B]") .packaged "d.json").outcome =
      .error (misplacedFault "[B]") := by decide +kernel
  have hascii : Text.IsAscii (misplacedFault "[B]").message := by
    unfold Text.IsAscii
    decide +kernel
  have hfits : ("Error: " ++ (misplacedFault "[B]").message : Text).length < Host.columns := by
    decide +kernel
  have hplain : Terminal.IsPlain (misplacedFault "[B]").message :=
    ⟨by decide +kernel, by decide +kernel,
      Terminal.namesNoEmoji_of_not_mem (by decide +kernel)⟩
  have hcompiled := load_error_reported noService (callsOn_compiledWords (misplaced "[B]")) hfault
    rfl hascii hfits
  have hpreviewed := load_error_reported noService (callsOn_previewedWords (misplaced "[B]"))
    hfault rfl hascii hfits
  exact ⟨hfault, hplain, hcompiled.2.mpr hplain, hpreviewed.2.mpr hplain⟩

/-- A refusal that says what looks like the end of a style is not reported. -/
theorem lost_in_markup : CallsOn (misplaced "[/b]") compiledWords .packaged "d.json" ∧
    (designOf (misplaced "[/b]") .packaged "d.json").outcome = .error (misplacedFault "[/b]") ∧
    Text.IsAscii (misplacedFault "[/b]").message ∧
    ("Error: " ++ (misplacedFault "[/b]").message : Text).length < Host.columns ∧
    ¬(run noService (misplaced "[/b]") compiledWords).Reports (misplacedFault "[/b]").message := by
  refine ⟨callsOn_compiledWords _, by decide +kernel, ?_, by decide +kernel, fun h => ?_⟩
  · unfold Text.IsAscii
    decide +kernel
  · have hescaped : (run noService (misplaced "[/b]") compiledWords).escaped ≠ none := by
      decide +kernel
    exact hescaped h.escaped

end Examples

end LabelPress.CommandLine
