import LabelPress.Proofs.CommandLine.Compile

/-!
# What the command that shows a preview sends

The command compiles the design for the first set of bindings and sends a single request, whose body
is that label. With the same inputs this is the label that the command that compiles prints first.
-/

namespace LabelPress

namespace Preview

/-- A request carries the bytes of the text that it was made for. -/
theorem encoded_of_pageRequest {base zpl accept : Text} {page : Page} {index : Nat} {q : Request}
    (h : (pageRequest base zpl page index accept).outcome = .ok q) :
    zpl.encoded = .ok q.body := by
  simp only [pageRequest, request, Journaled.outcome_bind_eq_ok] at h
  obtain ⟨width, -, height, -, h⟩ := h
  have hrequest : ∃ address, requestAt address zpl accept = .ok q := by
    split at h
    · simp only [Journaled.outcome_bind_eq_ok] at h
      obtain ⟨_, hfail, -⟩ := h
      cases hfail
    · simp only [Journaled.outcome_bind_eq_ok] at h
      obtain ⟨address, -, _, -, hq⟩ := h
      exact ⟨address, hq⟩
  obtain ⟨address, hq⟩ := hrequest
  simp only [requestAt, bind_eq_ok, mapError_eq_ok, pure_eq_ok] at hq
  obtain ⟨body, hbody, _, -, _, -, _, -, rfl⟩ := hq
  exact hbody

end Preview

namespace CommandLine

open Program

def CallsPreview [Host] (files : FileTree) (words : List Text) (verbose : Bool)
    (settings : Settings) (o : PreviewOrder) : Prop :=
  ∃ rest told, (launch words).Ends { files } ⟨verbose, .preview, rest, settings⟩
    { files, err := told } ∧ PreviewOrder.ofWords rest = .ok (some o)

def firstLabel [Host] (verbose : Bool) (settings : Settings) (o : PreviewOrder) :
    Program (Design × Label) := do
  let design ← loadDesign verbose settings o.file
  let sets ← bindingSets .preview o.binds o.bindings
  let target := settings.target none oneCopy
  let label ← needJournaled verbose (target.compile (sets.headD []) design)
  return (design, label)

def receive [Host] (service : Service) (verbose : Bool) (o : PreviewOrder)
    (request : Preview.Request) : Program Unit := do
  let reply := service request
  logAnswer verbose request reply
  match request.image reply with
  | .error (.preview fault) => failWith ("[red]Preview failed:[/red] " ++ fault.message)
  | .error fault => escape fault
  | .ok image =>
    putFile o.output image
    printStyled ("[green]Preview written to[/green] " ++ o.output)

def showLabel [Host] (service : Service) (verbose : Bool) (settings : Settings) (o : PreviewOrder)
    (page : Page) (label : Text) : Program Unit := do
  let request ← needJournaled verbose
    (Preview.pageRequest settings.previewUrl label page 0 o.accept)
  modify fun w => { w with requests := w.requests ++ [request] }
  receive service verbose o request

section Preview
variable [Host] {service : Service} {files : FileTree} {words : List Text} {verbose : Bool}
  {settings : Settings} {o : PreviewOrder} {w w' : World} {d : Design} {label : Label}

theorem preview_eq : preview service verbose settings o =
    firstLabel verbose settings o >>= fun (design, label) =>
      showLabel service verbose settings o design.page label.text := by
  simp only [firstLabel, bind_assoc, pure_bind]
  rfl

theorem reaches_preview {rest : List Text} {w : World}
    (hlaunch : (launch words).Ends { files } ⟨verbose, .preview, rest, settings⟩ w)
    (ho : PreviewOrder.ofWords rest = .ok (some o)) (service : Service) :
    Reaches service files words (preview service verbose settings o) w := by
  refine (reaches_of_launch hlaunch).trans ?_
  simp only [Call.perform, ho]
  rfl

theorem CallsPreview.reaches (h : CallsPreview files words verbose settings o)
    (service : Service) :
    ∃ told, Reaches service files words (preview service verbose settings o)
      { files, err := told } := by
  obtain ⟨rest, told, hlaunch, ho⟩ := h
  exact ⟨told, reaches_preview hlaunch ho service⟩

theorem isLocal_logAnswer (verbose : Bool) (request : Preview.Request) (reply : Preview.Reply) :
    (logAnswer verbose request reply).IsLocal := by
  unfold logAnswer
  split
  · split
    · exact isLocal_complain _
    · exact isLocal_pure _
  · exact isLocal_pure _
  · exact isLocal_pure _

theorem isLocal_receive (service : Service) (verbose : Bool) (o : PreviewOrder)
    (request : Preview.Request) : (receive service verbose o request).IsLocal := by
  refine .bind (isLocal_logAnswer _ _ _) fun _ => ?_
  split
  · exact isLocal_failWith _
  · exact isLocal_escape _
  · exact .bind (isLocal_putFile _ _) fun _ => .bind (isLocal_need _) fun _ =>
      isLocal_printOr _ _

/-- The commands read the same inputs, so the first label of a preview is that of the first set. -/
theorem CallsPreview.reaches_showLabel {os : List (Text × Text)} {given : List Entries}
    (h : CallsPreview files words verbose settings o) (service : Service)
    (hdesign : (designOf files settings o.file).outcome = .ok d)
    (hos : bindings o.binds = .ok os) (hgiven : GivesSets files o.bindings given)
    (hlabel : ((settings.target none oneCopy).compile
      (((if given.isEmpty then [[]] else given).map (overlaid os)).headD []) d).outcome =
        .ok label) :
    ∃ w, w.requests = [] ∧
      Reaches service files words (showLabel service verbose settings o d.page label.text) w := by
  obtain ⟨told, hreaches⟩ := h.reaches service
  have hload : (loadDesign verbose settings o.file).Ends { files, err := told } d _ :=
    ends_loadDesign.mpr ⟨hdesign, rfl⟩
  have hsets : GivesSets (World.told { files, err := told } verbose
      (designOf files settings o.file).notes).files o.bindings given := by
    rw [World.files_told]
    exact hgiven
  have hfirst : (firstLabel verbose settings o).Ends { files, err := told } (d, label) _ :=
    ends_bind.mpr ⟨d, _, hload, ends_bind.mpr ⟨_, _,
      ends_bindingSets.mpr ⟨os, given, hos, hsets, rfl, rfl⟩, ends_bind.mpr ⟨label, _,
        ends_needJournaled.mpr ⟨hlabel, rfl⟩, ends_pure.mpr ⟨rfl, rfl⟩⟩⟩⟩
  rw [preview_eq] at hreaches
  have hshow := hreaches.bind_of_ends hfirst
  refine ⟨_, ?_, hshow⟩
  rw [World.requests_told, World.requests_told]

/-- The one request that is made for a label is sent, or its fault ends the run. -/
theorem Reaches.requests_showLabel {page : Page} {text : Text}
    (h : Reaches service files words (showLabel service verbose settings o page text) w) :
    match (Preview.pageRequest settings.previewUrl text page 0 o.accept).outcome with
    | .ok q => (run service files words).world.requests = w.requests ++ [q]
    | .error fault => (run service files words).world.requests = w.requests ∧
        (run service files words).escaped = some fault := by
  split
  · next q hq =>
    have hrequest : (needJournaled verbose
        (Preview.pageRequest settings.previewUrl text page 0 o.accept)).Ends w q _ :=
      ends_needJournaled.mpr ⟨hq, rfl⟩
    rw [h.world_eq, showLabel, run_bind_of_ends hrequest,
      run_bind_of_ends (ends_modify (u := ()).mpr rfl),
      (isLocal_receive service verbose o q).requests_eq, World.requests_told]
  · next fault hfault =>
    have hstops : (showLabel service verbose settings o page text).Stops w (.escaped fault) _ :=
      stops_bind_of_stops (stops_needJournaled hfault)
    rw [h.run_of_stops hstops]
    exact ⟨World.requests_told _ _ _, rfl⟩

/-- The run that shows a preview sends one request. Its body is in UTF-8 what the run that compiles
with the same inputs prints first. It sends none only where none can be made. -/
theorem CallsPreview.requests_first_format {compileWords : List Text} {verbose' : Bool}
    {r : CompileRequest} {told : Text}
    (hcompile : CallsCompile files compileWords verbose' settings r told)
    (hpreview : CallsPreview files words verbose settings o) (hfile : o.file = r.file)
    (hbinds : o.binds = r.binds) (hbindings : o.bindings = r.bindings)
    (hcatalog : r.catalog = false) (hcopies : r.copies = oneCopy) (houtput : r.output = none)
    (hexit : (run service files compileWords).exitCode = 0) :
    ∃ d first, (designOf files settings r.file).outcome = .ok d ∧
      first = (run service files compileWords).world.out.through "^XZ" ∧
      match (Preview.pageRequest settings.previewUrl first d.page 0 o.accept).outcome with
      | .ok q => (run service files words).world.requests = [q] ∧
          ∃ s, Text.string? first = some s ∧ Text.Utf8.encode s = q.body
      | .error fault => (run service files words).world.requests = [] ∧
          (run service files words).escaped = some fault := by
  obtain ⟨d, os, given, text, hd, hos, hgiven, htext, hputs⟩ := hcompile.of_exitCode hexit
  have htarget : r.target settings = settings.target none oneCopy := by
    simp only [CompileRequest.target, hcatalog, hcopies, Bool.false_eq_true, if_false]
  -- There is a first set, if only the empty one where none is given.
  obtain ⟨set, sets, hsets⟩ : ∃ set sets,
      (if given.isEmpty then [[]] else given).map (overlaid os) = set :: sets := by
    cases given with
    | nil => exact ⟨_, _, rfl⟩
    | cons set sets => exact ⟨_, _, rfl⟩
  rw [htarget, hsets] at htext
  obtain ⟨label, hlabel, hfirst⟩ := Target.through_compileBatch htext
  simp only [CompileRequest.PutsOut, houtput, Option.filter_none] at hputs
  refine ⟨d, label.text, hd, by rw [hputs, hfirst], ?_⟩
  rw [← hfile] at hd
  rw [← hbinds] at hos
  rw [← hbindings] at hgiven
  rw [show set = ((if given.isEmpty then [[]] else given).map (overlaid os)).headD [] by
    rw [hsets]; rfl] at hlabel
  obtain ⟨w, hw, hreaches⟩ := hpreview.reaches_showLabel service hd hos hgiven hlabel
  have hrequests := hreaches.requests_showLabel
  rw [hw] at hrequests
  split at hrequests
  · next q hq =>
    exact ⟨hrequests, Text.encoded_eq_ok.mp (Preview.encoded_of_pageRequest hq)⟩
  · exact hrequests

def shownWords (binds : List Text) : List Text :=
  "preview" :: "d.json" :: "--output" :: "p.png" :: "--bindings" :: "b.json" ::
    binds.flatMap fun word => ["--bind", word]

def shownOrder (binds : List Text) : PreviewOrder where
  file := "d.json"
  binds := binds
  bindings := some "b.json"
  output := "p.png"
  pdf := false

end Preview

section Examples
attribute [local instance] Host.plain

theorem requests_first_format_of_two :
    ∃ q s, (run noService (inputFiles blank twoSets) (shownWords ["k=x"])).world.requests = [q] ∧
      Text.string? ((run noService (inputFiles blank twoSets)
        (boundWords ["k=x"])).world.out.through "^XZ") = some s ∧
      q.body = Text.Utf8.encode s := by
  have hcompile : CallsCompile (inputFiles blank twoSets) (boundWords ["k=x"]) false .packaged
      (boundRequest ["k=x"]) "" := callsCompile_of_words rfl
  have hpreview : CallsPreview (inputFiles blank twoSets) (shownWords ["k=x"]) false .packaged
      (shownOrder ["k=x"]) := ⟨_, "", launch_plain rfl rfl, rfl⟩
  have hexit : (run noService (inputFiles blank twoSets) (boundWords ["k=x"])).exitCode = 0 := by
    decide +kernel
  have hsent : (run noService (inputFiles blank twoSets)
      (shownWords ["k=x"])).world.requests.length = 1 := by
    decide +kernel
  obtain ⟨d, first, -, rfl, hmatch⟩ :=
    hpreview.requests_first_format hcompile rfl rfl rfl rfl rfl rfl hexit
  split at hmatch
  · next q _ =>
    obtain ⟨hrequests, s, hs, hbody⟩ := hmatch
    exact ⟨q, s, hrequests, hs, hbody.symm⟩
  · rw [hmatch.1] at hsent
    cases hsent

end Examples

end CommandLine
end LabelPress
