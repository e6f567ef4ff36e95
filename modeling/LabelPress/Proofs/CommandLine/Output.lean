import LabelPress.Proofs.CommandLine.Files
import LabelPress.Proofs.CommandLine.Preview

/-!
# Results are written whole or not at all

A command that succeeds has put its whole result in its file, and one that fails leaves the file as
it was, but for what can go wrong once the file is open: the result may have no bytes, and the line
that tells of it may not be one that a terminal can show.
-/

set_option mvcgen.warning false

namespace LabelPress.CommandLine

open Program

/-! ## Words that ask for a file -/

def Calls (words : List Text) (command : CommandName) (rest : List Text) : Prop :=
  ∃ meanings name, readWords programOptions false words = .ok (meanings, name :: rest) ∧
    (∀ m ∈ meanings, ¬(m = .help ∨ m = .version)) ∧ CommandName.ofWord? name = some command

/-- The words of a run ask for the result of a command in a file. -/
inductive AsksToWrite (words : List Text) (file : Text) : Prop
  | labels {rest plain : List Text} {meanings : List CompileOption}
      (hcalls : Calls words .compile rest)
      (hread : readWords compileOptions true rest = .ok (meanings, plain))
      (hhelp : .help ∉ meanings)
      (hfile : lastOf (fun | .output f => some f | _ => none) meanings = some file)
  | image {rest plain : List Text} {meanings : List PreviewOption}
      (hcalls : Calls words .preview rest)
      (hread : readWords previewOptions true rest = .ok (meanings, plain))
      (hhelp : .help ∉ meanings)
      (hfile : lastOf (fun | .output f => some f | _ => none) meanings = some file)

section Words
variable {words rest : List Text} {w w' : World}

theorem Calls.unique {command command' : CommandName} {rest' : List Text}
    (h : Calls words command rest) (h' : Calls words command' rest') :
    command = command' ∧ rest = rest' := by
  obtain ⟨meanings, name, hread, -, hname⟩ := h
  obtain ⟨meanings', name', hread', -, hname'⟩ := h'
  cases hread.symm.trans hread'
  cases hname.symm.trans hname'
  exact ⟨rfl, rfl⟩

theorem reads_of_ends_choice {choice : ProgramChoice}
    (h : (ProgramChoice.ofWords words).Ends w (choice, rest) w') :
    ∃ meanings, readWords programOptions false words = .ok (meanings, rest) ∧
      ∀ m ∈ meanings, ¬(m = .help ∨ m = .version) := by
  simp only [ProgramChoice.ofWords, ends_bind, ends_needWords] at h
  obtain ⟨⟨meanings, plain⟩, _, ⟨hread, rfl⟩, h⟩ := h
  split at h
  · obtain ⟨_, _, hanswer, -⟩ := ends_bind.mp h
    exact absurd hanswer not_ends_answer
  · obtain ⟨_, _, hanswer, -⟩ := ends_bind.mp h
    exact absurd hanswer not_ends_answer
  · next hnone =>
    have hplain : rest = plain := by
      split at h
      · obtain ⟨_, _, -, hpure⟩ := ends_bind.mp h
        exact congrArg Prod.snd (ends_pure.mp hpure).1
      · exact congrArg Prod.snd (ends_pure.mp h).1
    rw [hplain]
    exact ⟨meanings, hread, by simpa using hnone⟩

theorem reads_of_ends_commandOf {command : CommandName}
    (h : (commandOf words).Ends w (command, rest) w') :
    ∃ name, words = name :: rest ∧ CommandName.ofWord? name = some command := by
  have hofWord : ∀ {name : Text}, CommandName.ofWord name = .ok command →
      CommandName.ofWord? name = some command := by
    intro name hname
    unfold CommandName.ofWord at hname
    split at hname
    · next hsome =>
      cases hname
      exact hsome
    · cases hname
  unfold commandOf at h
  split at h
  · exact absurd h not_ends_refuse
  · next name others =>
    refine ⟨name, ?_⟩
    split at h
    · obtain ⟨_, _, -, htail⟩ := ends_bind.mp h
      obtain ⟨_, _, hneed, hpure⟩ := ends_bind.mp htail
      cases (ends_pure.mp hpure).1
      exact ⟨rfl, hofWord (ends_needWords.mp hneed).1⟩
    · obtain ⟨_, _, hneed, hpure⟩ := ends_bind.mp h
      cases (ends_pure.mp hpure).1
      exact ⟨rfl, hofWord (ends_needWords.mp hneed).1⟩

theorem calls_of_ends_launch [Host] {call : Call} (h : (launch words).Ends w call w') :
    Calls words call.command call.words := by
  unfold launch at h
  split at h
  · obtain ⟨_, _, -, hthrow⟩ := ends_bind.mp h
    exact absurd (ends_bind.mp hthrow) fun ⟨_, _, hends, _⟩ => not_ends_throw hends
  · obtain ⟨choice, _, hchoice, hcommand⟩ := ends_bind.mp h
    obtain ⟨command, _, hcommand, hsettings⟩ := ends_bind.mp hcommand
    obtain ⟨settings, _, -, hpure⟩ := ends_bind.mp hsettings
    obtain ⟨meanings, hread, hmeanings⟩ := reads_of_ends_choice hchoice
    obtain ⟨name, hname, hnamed⟩ := reads_of_ends_commandOf hcommand
    cases (ends_pure.mp hpure).1
    exact ⟨meanings, name, hname ▸ hread, hmeanings, hnamed⟩

theorem isLocal_mustBeFile (option file : Text) : (mustBeFile option file).IsLocal := by
  refine .bind (isLocal_need _) fun _ => .bind isLocal_get fun w => ?_
  split
  · exact isLocal_pure _
  · exact isLocal_refuse _ _
  · exact isLocal_refuse _ _

theorem isLocal_loadSettings [Host] (verbose : Bool) (config : Option Text) :
    (loadSettings verbose config).IsLocal := by
  refine .bind isLocal_get fun w => .bind (isLocal_journaled _ _) fun outcome => ?_
  split
  · exact isLocal_pure _
  · exact isLocal_failWith _
  · exact isLocal_escape _

/-- A run that calls a command and stops before that has failed. -/
theorem Calls.isLocal_launch [Host] {command : CommandName} (h : Calls words command rest) :
    (launch words).IsLocal := by
  obtain ⟨meanings, name, hread, hmeanings, hname⟩ := h
  have hchoice : (ProgramChoice.ofWords words).IsLocal := by
    unfold ProgramChoice.ofWords
    refine .bind_of_ends (isLocal_needWords _ _) fun hends => ?_
    obtain ⟨hends, -⟩ := ends_needWords.mp hends
    cases hread.symm.trans hends
    have hnone : meanings.find? (fun m => m = .help || m = .version) = none := by
      simpa using hmeanings
    simp only [hnone]
    split
    · exact .bind (isLocal_mustBeFile _ _) fun _ => isLocal_pure _
    · exact isLocal_pure _
  have hcommand : (commandOf (name :: rest)).IsLocal := by
    unfold commandOf
    simp only [hname, Option.isNone_some, Bool.false_and, Bool.false_eq_true, if_false]
    exact .bind (isLocal_needWords _ _) fun _ => isLocal_pure _
  unfold launch
  split
  · exact .bind (isLocal_complain _) fun _ => .bind_of_not_ends
      (isLocal_throw (s := .exit 2) (by decide : (2 : Nat) ≠ 0)) not_ends_throw _
  · refine .bind_of_ends hchoice fun {_ choice _} hends => ?_
    obtain ⟨choice, plain⟩ := choice
    obtain ⟨meanings', hread', -⟩ := reads_of_ends_choice hends
    cases hread.symm.trans hread'
    exact .bind hcommand fun _ => .bind (isLocal_loadSettings _ _) fun _ => isLocal_pure _

/-- The words of a command that is asked for help do not ask for anything else. -/
theorem CompileRequest.reads_of_ofWords {order : Option CompileRequest}
    (h : CompileRequest.ofWords rest = .ok order) :
    ∃ meanings plain, readWords compileOptions true rest = .ok (meanings, plain) ∧
      match order with
      | none => .help ∈ meanings
      | some r => .help ∉ meanings ∧
          r.output = lastOf (fun | .output f => some f | _ => none) meanings := by
  unfold CompileRequest.ofWords at h
  obtain ⟨⟨meanings, plain⟩, hread, h⟩ := bind_eq_ok.mp h
  refine ⟨meanings, plain, hread, ?_⟩
  dsimp only at h
  split at h
  · next hhelp =>
    cases h
    exact List.contains_iff_mem.mp hhelp
  · next hhelp =>
    have hsome : ∃ r, order = some r ∧
        r.output = lastOf (fun | .output f => some f | _ => none) meanings := by
      split at h
      all_goals
        simp only [bind_eq_ok, pure_eq_ok] at h
        obtain ⟨_, -, _, -, _, -, rfl⟩ := h
        exact ⟨_, rfl, rfl⟩
    obtain ⟨r, rfl, hr⟩ := hsome
    exact ⟨fun hmem => hhelp (List.contains_iff_mem.mpr hmem), hr⟩

theorem PreviewOrder.reads_of_ofWords {order : Option PreviewOrder}
    (h : PreviewOrder.ofWords rest = .ok order) :
    ∃ meanings plain, readWords previewOptions true rest = .ok (meanings, plain) ∧
      match order with
      | none => .help ∈ meanings
      | some o => .help ∉ meanings ∧
          lastOf (fun | .output f => some f | _ => none) meanings = some o.output := by
  unfold PreviewOrder.ofWords at h
  obtain ⟨⟨meanings, plain⟩, hread, h⟩ := bind_eq_ok.mp h
  refine ⟨meanings, plain, hread, ?_⟩
  dsimp only at h
  split at h
  · next hhelp =>
    cases h
    exact List.contains_iff_mem.mp hhelp
  · next hhelp =>
    obtain ⟨file, -, h⟩ := bind_eq_ok.mp h
    split at h
    · next output houtput =>
      simp only [bind_eq_ok, pure_eq_ok] at h
      obtain ⟨_, rfl, _, -, rfl⟩ := h
      exact ⟨fun hmem => hhelp (List.contains_iff_mem.mpr hmem), houtput⟩
    · obtain ⟨_, hthrow, -⟩ := bind_eq_ok.mp h
      cases hthrow

namespace AsksToWrite
variable {file file' : Text}

theorem unique (h : AsksToWrite words file) (h' : AsksToWrite words file') : file = file' := by
  cases h with
  | labels hcalls hread _ hfile =>
    cases h' with
    | labels hcalls' hread' _ hfile' =>
      obtain ⟨-, rfl⟩ := hcalls.unique hcalls'
      cases hread.symm.trans hread'
      exact Option.some.inj (hfile.symm.trans hfile')
    | image hcalls' => cases (hcalls.unique hcalls').1
  | image hcalls hread _ hfile =>
    cases h' with
    | labels hcalls' => cases (hcalls.unique hcalls').1
    | image hcalls' hread' _ hfile' =>
      obtain ⟨-, rfl⟩ := hcalls.unique hcalls'
      cases hread.symm.trans hread'
      exact Option.some.inj (hfile.symm.trans hfile')

theorem ofWords_compile (h : AsksToWrite words file) (hcalls : Calls words .compile rest) :
    CompileRequest.ofWords rest ≠ .ok none := by
  intro hnone
  obtain ⟨meanings, plain, hread, hhelp⟩ := CompileRequest.reads_of_ofWords hnone
  cases h with
  | labels hcalls' hread' hnot =>
    obtain ⟨-, rfl⟩ := hcalls.unique hcalls'
    cases hread.symm.trans hread'
    exact hnot hhelp
  | image hcalls' => cases (hcalls.unique hcalls').1

theorem ofWords_preview (h : AsksToWrite words file) (hcalls : Calls words .preview rest) :
    PreviewOrder.ofWords rest ≠ .ok none := by
  intro hnone
  obtain ⟨meanings, plain, hread, hhelp⟩ := PreviewOrder.reads_of_ofWords hnone
  cases h with
  | labels hcalls' => cases (hcalls.unique hcalls').1
  | image hcalls' hread' hnot =>
    obtain ⟨-, rfl⟩ := hcalls.unique hcalls'
    cases hread.symm.trans hread'
    exact hnot hhelp

theorem output_eq {r : CompileRequest} (h : AsksToWrite words file)
    (hcalls : Calls words .compile rest) (hr : CompileRequest.ofWords rest = .ok (some r)) :
    r.output = some file := by
  obtain ⟨meanings, plain, hread, -, houtput⟩ := CompileRequest.reads_of_ofWords hr
  cases h with
  | labels hcalls' hread' _ hfile =>
    obtain ⟨-, rfl⟩ := hcalls.unique hcalls'
    cases hread.symm.trans hread'
    exact houtput.trans hfile
  | image hcalls' => cases (hcalls.unique hcalls').1

/-- Only the commands that compile and preview write files. -/
theorem writes {command : CommandName} (h : AsksToWrite words file)
    (hcalls : Calls words command rest) : command = .compile ∨ command = .preview := by
  cases h with
  | labels hcalls' => exact .inl (hcalls.unique hcalls').1
  | image hcalls' => exact .inr (hcalls.unique hcalls').1

end AsksToWrite

theorem isLocal_needOrder {α : Type} (u : Usage) {x : Except UsageFault (Option α)}
    (h : x ≠ .ok none) : (needOrder u x).IsLocal := by
  refine .bind_of_ends (isLocal_needWords u x) fun {_ order _} hends => ?_
  obtain ⟨rfl, -⟩ := ends_needWords.mp hends
  cases order with
  | some a => exact isLocal_pure a
  | none => exact absurd rfl h

theorem ends_needOrder {α : Type} {u : Usage} {x : Except UsageFault (Option α)} {a : α} :
    (needOrder u x).Ends w a w' ↔ x = .ok (some a) ∧ w' = w := by
  simp only [needOrder, ends_bind, ends_needWords]
  constructor
  · rintro ⟨order, _, ⟨rfl, rfl⟩, h⟩
    split at h
    · obtain ⟨rfl, rfl⟩ := ends_pure.mp h
      exact ⟨rfl, rfl⟩
    · exact absurd h not_ends_answer
  · rintro ⟨rfl, rfl⟩
    exact ⟨_, _, ⟨rfl, rfl⟩, ends_pure.mpr ⟨rfl, rfl⟩⟩

end Words

/-! ## Results -/

/-- A result that a run has to put in a file, with the line that tells of it. -/
structure Delivery where
  file : Text
  result : Result
  line : Text
  /-- Whether the line goes to the standard output, and not to that of errors. -/
  aloud : Bool

namespace Delivery
variable [Host] (d : Delivery)

def counts (sets elements : Nat) : String :=
  "(" ++ toString sets ++ " label(s), " ++ toString elements ++ " element(s))"

def labels (file text : Text) (sets elements : Nat) : Delivery where
  file := file
  result := .labels (text ++ "\n")
  line := "[green]Written:[/green] " ++ file ++ " [dim]" ++ counts sets elements ++ "[/dim]"
  aloud := false

def image (file : Text) (content : List UInt8) : Delivery where
  file := file
  result := .image content
  line := "[green]Preview written to[/green] " ++ file
  aloud := true

/-- The line of a result can be shown, and it has bytes where it needs some. -/
def IsTold : Prop :=
  ∃ shown, Terminal.shownMarkup d.line = .ok shown ∧ (d.aloud = true → shown.IsWhole)

def tell : Program Unit :=
  if d.aloud then printStyled d.line else do complain (← shown d.line)

def perform : Program Unit := do
  d.result.write d.file
  d.tell

variable {d} {w : World}

theorem exists_ends_tell : (∃ w', d.tell.Ends w () w') ↔ d.IsTold := by
  cases haloud : d.aloud with
  | true =>
    simp only [tell, haloud, if_true, printStyled, shown, ends_bind, ends_need, ends_printOr,
      IsTold, true_imp_iff]
    constructor
    · rintro ⟨_, shown, _, ⟨hshown, rfl⟩, hwhole, rfl⟩
      exact ⟨shown, hshown, hwhole⟩
    · rintro ⟨shown, hshown, hwhole⟩
      exact ⟨_, shown, w, ⟨hshown, rfl⟩, hwhole, rfl⟩
  | false =>
    simp only [tell, haloud, Bool.false_eq_true, if_false, shown, ends_bind, ends_need,
      ends_complain, IsTold, false_imp_iff, and_true]
    constructor
    · rintro ⟨_, shown, _, ⟨hshown, rfl⟩, rfl⟩
      exact ⟨shown, hshown⟩
    · rintro ⟨shown, hshown⟩
      exact ⟨_, shown, w, ⟨hshown, rfl⟩, rfl⟩

theorem isLocal_tell : d.tell.IsLocal := by
  unfold tell
  split
  · exact .bind (isLocal_need _) fun _ => isLocal_printOr _ _
  · exact .bind (isLocal_need _) fun _ => isLocal_complain _

theorem keepsFiles_tell : d.tell.KeepsFiles := by
  refine .of_spec fun files => ?_
  unfold tell printStyled shown
  mvcgen with grind

theorem run_perform_of_not_takes (h : ¬w.files.Takes d.file) :
    ∃ fault, d.perform.Stops w (.escaped fault) w := by
  obtain ⟨fault, hstops⟩ := d.result.stops_write_of_not_takes h
  exact ⟨fault, stops_bind_of_stops hstops⟩

/-- A file that can be written has the bytes of the result in the end. The run fails if the result
has none or cannot be told of. -/
theorem run_perform_of_takes (h : w.files.Takes d.file) :
    ∃ w', w'.files.bytes (FilePath.ofText d.file) = .ok d.result.bytesLeft ∧
      ((d.result.bytes?.isSome = true ∧ d.IsTold) ∧ d.perform.Ends w () w' ∨
        ¬(d.result.bytes?.isSome = true ∧ d.IsTold) ∧
          ∃ s, s.IsFailure ∧ d.perform.Stops w s w') := by
  obtain ⟨w₁, hbytes, hwritten, hunwritten⟩ := d.result.run_write_of_takes h
  cases hsome : d.result.bytes?.isSome with
  | true =>
    have hwrite := hwritten hsome
    rcases ends_or_stops d.tell w₁ with ⟨⟨⟩, w₂, htell⟩ | ⟨s, w₂, htell⟩
    · have htold : d.IsTold := exists_ends_tell.mp ⟨w₂, htell⟩
      exact ⟨w₂, by rw [keepsFiles_tell.files_of_ends htell, hbytes],
        .inl ⟨⟨rfl, htold⟩, ends_bind.mpr ⟨_, _, hwrite, htell⟩⟩⟩
    · refine ⟨w₂, by rw [keepsFiles_tell.files_of_stops htell, hbytes], .inr ⟨?_, s,
        isLocal_tell.isFailure htell, stops_bind.mpr (.inr ⟨_, _, hwrite, htell⟩)⟩⟩
      rintro ⟨-, htold⟩
      obtain ⟨w₃, hends⟩ := exists_ends_tell.mpr htold
      cases (show d.tell.run w₁ = _ from htell).symm.trans hends
  | false =>
    obtain ⟨fault, hstops⟩ := hunwritten hsome
    exact ⟨w₁, hbytes, .inr ⟨fun h => Bool.false_ne_true h.1, .escaped fault, trivial,
      stops_bind_of_stops hstops⟩⟩

end Delivery

/-- What a run has to deliver: the labels of a design for all sets of bindings, with a line feed
behind them, or the content of an answer of success to the request for the first label. -/
inductive Delivers [Host] (service : Service) (files : FileTree) (words : List Text) :
    Delivery → Prop
  | labels {verbose : Bool} {settings : Settings} {r : CompileRequest} {told file text : Text}
      {design : Design} {os : List (Text × Text)} {given sets : List Entries}
      (hcalls : CallsCompile files words verbose settings r told)
      (hfile : r.output.filter (fun file => !file.isEmpty) = some file)
      (hdesign : (designOf files settings r.file).outcome = .ok design)
      (hos : bindings r.binds = .ok os) (hgiven : GivesSets files r.bindings given)
      (hsets : sets = (if given.isEmpty then [[]] else given).map (overlaid os))
      (htext : ((r.target settings).compileBatch sets design).outcome = .ok text) :
      Delivers service files words (.labels file text sets.length design.elements.length)
  | image {verbose : Bool} {settings : Settings} {o : PreviewOrder} {design : Design}
      {os : List (Text × Text)} {given sets : List Entries} {label : Label}
      {request : Preview.Request} {answer : Preview.Answer}
      (hcalls : CallsPreview files words verbose settings o)
      (hdesign : (designOf files settings o.file).outcome = .ok design)
      (hos : bindings o.binds = .ok os) (hgiven : GivesSets files o.bindings given)
      (hsets : sets = (if given.isEmpty then [[]] else given).map (overlaid os))
      (hlabel : ((settings.target none oneCopy).compile (sets.headD []) design).outcome = .ok label)
      (hrequest : (Preview.pageRequest settings.previewUrl label.text design.page 0
        o.accept).outcome = .ok request)
      (habsolute : request.address.isAbsolute = true)
      (hreply : service request = .answered answer)
      (hstatus : 200 ≤ answer.status ∧ answer.status < 300) :
      Delivers service files words (.image o.output answer.content)

def orderedLabels [Host] (verbose : Bool) (settings : Settings) (r : CompileRequest) :
    Program (Design × List Entries × Text) := do
  let design ← loadDesign verbose settings r.file
  let sets ← bindingSets .compile r.binds r.bindings
  let labels ← needJournaled verbose ((r.target settings).compileBatch sets design)
  return (design, sets, labels)

theorem Request.image_eq_ok {request : Preview.Request} {reply : Preview.Reply}
    {content : List UInt8} :
    request.image reply = .ok content ↔ request.address.isAbsolute = true ∧ ∃ answer,
      reply = .answered answer ∧ (200 ≤ answer.status ∧ answer.status < 300) ∧
        answer.content = content := by
  cases reply with
  | unanswered _ => exact iff_of_false nofun fun ⟨_, _, h, _⟩ => nomatch h
  | failed _ => exact iff_of_false nofun fun ⟨_, _, h, _⟩ => nomatch h
  | answered answer =>
    simp only [Preview.Request.image, Preview.Answer.image, Preview.Reply.answered.injEq,
      exists_eq_left']
    split
    · next habsolute =>
      rw [mapError_eq_ok]
      split
      · next hstatus => simp [habsolute, hstatus]
      · next hstatus => exact iff_of_false nofun fun h => hstatus h.2.1
    · next hrelative => exact iff_of_false nofun fun h => hrelative h.1

theorem not_takes_nil (files : FileTree) : ¬files.Takes [] := by
  rintro ⟨-, place, hplace, hfolder⟩
  cases hplace
  cases hfolder

theorem keepsFiles_list (u : Usage) (order : Except UsageFault (Option Unit)) (t : Text) :
    (do needOrder u order; print t : Program Unit).KeepsFiles := by
  refine .of_spec fun files => ?_
  mvcgen with grind

section Delivery
variable [Host] {service : Service} {files : FileTree} {words : List Text} {verbose : Bool}
  {settings : Settings} {r : CompileRequest} {o : PreviewOrder} {w w' : World} {design : Design}
  {label : Label} {sets : List Entries} {text : Text} {request : Preview.Request}

theorem compile_eq : compile verbose settings r =
    orderedLabels verbose settings r >>= fun (design, sets, labels) =>
      match r.output.filter fun file => !file.isEmpty with
      | none => print (labels ++ "\n")
      | some file => (Delivery.labels file labels sets.length design.elements.length).perform := by
  simp only [compile, orderedLabels, bind_assoc, pure_bind]
  refine bind_congr fun design => bind_congr fun sets => bind_congr fun labels => ?_
  generalize r.output.filter (fun file => !file.isEmpty) = output
  cases output with
  | none => rfl
  | some file => rfl

theorem ends_orderedLabels :
    (∃ w', (orderedLabels verbose settings r).Ends w (design, sets, text) w') ↔
      ∃ os given, (designOf w.files settings r.file).outcome = .ok design ∧
        bindings r.binds = .ok os ∧ GivesSets w.files r.bindings given ∧
        sets = (if given.isEmpty then [[]] else given).map (overlaid os) ∧
        ((r.target settings).compileBatch sets design).outcome = .ok text := by
  simp only [orderedLabels, ends_bind, ends_loadDesign, ends_bindingSets, ends_needJournaled,
    ends_pure]
  constructor
  · rintro ⟨_, d, _, ⟨hd, rfl⟩, _, _, ⟨os, given, hos, hgiven, rfl, rfl⟩, _, _, ⟨htext, rfl⟩,
      hpure, rfl⟩
    cases hpure
    rw [World.files_told] at hgiven
    exact ⟨os, given, hd, hos, hgiven, rfl, htext⟩
  · rintro ⟨os, given, hd, hos, hgiven, rfl, htext⟩
    rw [← World.files_told w verbose (designOf w.files settings r.file).notes] at hgiven
    exact ⟨_, design, _, ⟨hd, rfl⟩, _, _, ⟨os, given, hos, hgiven, rfl, rfl⟩, text, _,
      ⟨htext, rfl⟩, rfl, rfl⟩

theorem ends_firstLabel :
    (∃ w', (firstLabel verbose settings o).Ends w (design, label) w') ↔
      ∃ os given, (designOf w.files settings o.file).outcome = .ok design ∧
        bindings o.binds = .ok os ∧ GivesSets w.files o.bindings given ∧
        ((settings.target none oneCopy).compile
          (((if given.isEmpty then [[]] else given).map (overlaid os)).headD []) design).outcome =
            .ok label := by
  simp only [firstLabel, ends_bind, ends_loadDesign, ends_bindingSets, ends_needJournaled,
    ends_pure]
  constructor
  · rintro ⟨_, d, _, ⟨hd, rfl⟩, _, _, ⟨os, given, hos, hgiven, rfl, rfl⟩, _, _, ⟨hlabel, rfl⟩,
      hpure, rfl⟩
    cases hpure
    rw [World.files_told] at hgiven
    exact ⟨os, given, hd, hos, hgiven, hlabel⟩
  · rintro ⟨os, given, hd, hos, hgiven, hlabel⟩
    rw [← World.files_told w verbose (designOf w.files settings o.file).notes] at hgiven
    exact ⟨_, design, _, ⟨hd, rfl⟩, _, _, ⟨os, given, hos, hgiven, rfl, rfl⟩, label, _,
      ⟨hlabel, rfl⟩, rfl, rfl⟩

theorem isLocal_orderedLabels : (orderedLabels verbose settings r).IsLocal :=
  .bind (isLocal_loadDesign _ _ _) fun _ => .bind (isLocal_bindingSets _ _ _) fun _ =>
    .bind (isLocal_needJournaled _ _) fun _ => isLocal_pure _

theorem isLocal_firstLabel : (firstLabel verbose settings o).IsLocal :=
  .bind (isLocal_loadDesign _ _ _) fun _ => .bind (isLocal_bindingSets _ _ _) fun _ =>
    .bind (isLocal_needJournaled _ _) fun _ => isLocal_pure _

theorem keepsFiles_orderedLabels : (orderedLabels verbose settings r).KeepsFiles := by
  refine .of_spec fun files => ?_
  unfold orderedLabels
  mvcgen with grind

theorem keepsFiles_firstLabel : (firstLabel verbose settings o).KeepsFiles := by
  refine .of_spec fun files => ?_
  unfold firstLabel
  mvcgen with grind

theorem keepsFiles_logAnswer (reply : Preview.Reply) :
    (logAnswer verbose request reply).KeepsFiles := by
  refine .of_spec fun files => ?_
  unfold logAnswer
  mvcgen

theorem exists_ends_logAnswer (verbose : Bool) (request : Preview.Request)
    (reply : Preview.Reply) (w : World) :
    ∃ w', (logAnswer verbose request reply).Ends w () w' := by
  unfold logAnswer
  split
  · split
    · exact ⟨_, ends_complain.mpr rfl⟩
    · exact ⟨w, rfl⟩
  · exact ⟨w, rfl⟩
  · exact ⟨w, rfl⟩

/-- What a run delivers is written once the run has got so far, with the files as they were. -/
theorem Delivers.reaches {d : Delivery} (h : Delivers service files words d) :
    ∃ w, w.files = files ∧ Reaches service files words d.perform w := by
  cases h with
  | @labels verbose settings r told file text design os given sets hcalls hfile hdesign hos hgiven
      hsets htext =>
    have hreaches : Reaches service files words (compile verbose settings r)
        { files, err := told } := hcalls.reaches
    have hordered : ∃ w, (orderedLabels verbose settings r).Ends { files, err := told }
        (design, sets, text) w :=
      ends_orderedLabels.mpr ⟨os, given, hdesign, hos, hgiven, hsets, htext⟩
    obtain ⟨w, hends⟩ := hordered
    rw [compile_eq] at hreaches
    have hperform := hreaches.bind_of_ends hends
    simp only [hfile] at hperform
    exact ⟨w, keepsFiles_orderedLabels.files_of_ends hends, hperform⟩
  | @image verbose settings o design os given sets label request answer hcalls hdesign hos
      hgiven hsets hlabel hrequest habsolute hreply hstatus =>
    obtain ⟨told, hreaches⟩ := hcalls.reaches service
    rw [preview_eq] at hreaches
    rw [hsets] at hlabel
    have hfirst : ∃ w, (firstLabel verbose settings o).Ends { files, err := told }
        (design, label) w :=
      ends_firstLabel.mpr ⟨os, given, hdesign, hos, hgiven, hlabel⟩
    obtain ⟨w, hends⟩ := hfirst
    have hshow := hreaches.bind_of_ends hends
    have hneed : (needJournaled verbose (Preview.pageRequest settings.previewUrl label.text
        design.page 0 o.accept)).Ends w request _ := ends_needJournaled.mpr ⟨hrequest, rfl⟩
    have hsent := (hshow.bind_of_ends hneed).bind_of_ends (ends_modify (u := ()).mpr rfl)
    have himage : request.image (service request) = .ok answer.content :=
      Request.image_eq_ok.mpr ⟨habsolute, answer, hreply, hstatus, rfl⟩
    obtain ⟨w', hlog⟩ := exists_ends_logAnswer verbose request (service request) _
    have hperform := hsent.bind_of_ends hlog
    simp only [himage] at hperform
    refine ⟨w', ?_, hperform⟩
    rw [(keepsFiles_logAnswer _).files_of_ends hlog, World.files_told]
    exact keepsFiles_firstLabel.files_of_ends hends

theorem Delivers.asksToWrite {d : Delivery} (h : Delivers service files words d) :
    AsksToWrite words d.file := by
  cases h with
  | labels hcalls hfile =>
    obtain ⟨rest, hlaunch, hwords⟩ := hcalls
    obtain ⟨meanings, plain, hread, hhelp, houtput⟩ := CompileRequest.reads_of_ofWords hwords
    exact .labels (calls_of_ends_launch hlaunch) hread hhelp
      (houtput.symm.trans (Option.filter_eq_some_iff.mp hfile).1)
  | image hcalls =>
    obtain ⟨rest, told, hlaunch, hwords⟩ := hcalls
    obtain ⟨meanings, plain, hread, hhelp, houtput⟩ := PreviewOrder.reads_of_ofWords hwords
    exact .image (calls_of_ends_launch hlaunch) hread hhelp houtput

/-- A run goes on behind a part that leaves the files as they are, or ends with them as they are. -/
theorem Reaches.kept_or_goes {α : Type} {y : Program α} {f : α → Program Unit}
    (h : Reaches service files words (y >>= f) w) (hkeeps : y.KeepsFiles) :
    (∃ a w', y.Ends w a w' ∧ w'.files = w.files ∧ Reaches service files words (f a) w') ∨
      ((run service files words).world.files = w.files ∧
        (y.IsLocal → (run service files words).exitCode ≠ 0)) := by
  rcases ends_or_stops y w with ⟨a, w', hends⟩ | ⟨s, w', hstops⟩
  · exact .inl ⟨a, w', hends, hkeeps.files_of_ends hends, h.bind_of_ends hends⟩
  · have hrun := h.run_of_stops (stops_bind_of_stops hstops)
    refine .inr ⟨?_, fun hlocal => ?_⟩
    · rw [hrun, Stop.world_ending, hkeeps.files_of_stops hstops]
    · rw [hrun]
      exact (hlocal.isFailure hstops).exitCode_ne_zero w'

theorem Reaches.kept_of_not_ends {y : Program Unit} (h : Reaches service files words y w)
    (hkeeps : y.KeepsFiles) (hlocal : y.IsLocal) (hnot : ∀ {u w'}, ¬y.Ends w u w') :
    (run service files words).world.files = w.files ∧
      (run service files words).exitCode ≠ 0 := by
  rcases ends_or_stops y w with ⟨_, _, hends⟩ | ⟨s, w', hstops⟩
  · exact absurd hends hnot
  · rw [h.run_of_stops hstops, Stop.world_ending]
    exact ⟨hkeeps.files_of_stops hstops, (hlocal.isFailure hstops).exitCode_ne_zero w'⟩

/-- A run that compiles delivers labels, or leaves all files as they are; then it has failed if it
was to write a file. -/
theorem CallsCompile.delivers_or_kept {told : Text}
    (hcalls : CallsCompile files words verbose settings r told) :
    (∃ d, Delivers service files words d) ∨ ((run service files words).world.files = files ∧
      (r.output.filter (fun file => !file.isEmpty) ≠ none →
        (run service files words).exitCode ≠ 0)) := by
  have hreaches : Reaches service files words (compile verbose settings r)
      { files, err := told } := hcalls.reaches
  rw [compile_eq] at hreaches
  rcases hreaches.kept_or_goes keepsFiles_orderedLabels with
    ⟨⟨d, sets, text⟩, w, hends, hw, hgoes⟩ | ⟨hfiles, hexit⟩
  · cases hfile : r.output.filter fun file => !file.isEmpty with
    | some file =>
      obtain ⟨os, given, hdesign, hos, hgiven, hsets, htext⟩ := ends_orderedLabels.mp ⟨w, hends⟩
      exact .inl ⟨_, .labels hcalls hfile hdesign hos hgiven hsets htext⟩
    | none =>
      simp only [hfile] at hgoes
      have hprint : (print (text ++ "\n")).KeepsFiles := .of_spec fun _ => files_printOr _ _
      refine .inr ⟨?_, fun h => absurd rfl h⟩
      rw [hgoes.world_eq, hprint w, hw]
  · exact .inr ⟨hfiles, fun _ => hexit isLocal_orderedLabels⟩

/-- A run that does not get an image fails. -/
theorem Reaches.image_or_kept
    (h : Reaches service files words (receive service verbose o request) w) :
    (∃ content, request.image (service request) = .ok content) ∨
      ((run service files words).world.files = w.files ∧
        (run service files words).exitCode ≠ 0) := by
  rcases h.kept_or_goes (keepsFiles_logAnswer _) with ⟨_, w₁, hlog, hw₁, hgoes⟩ |
    ⟨hfiles, hexit⟩
  case inr => exact .inr ⟨hfiles, hexit (isLocal_logAnswer _ _ _)⟩
  rw [← hw₁]
  split at hgoes
  · exact .inr (hgoes.kept_of_not_ends (.of_spec fun _ => files_failWith _) (isLocal_failWith _)
      not_ends_failWith)
  · exact .inr (hgoes.kept_of_not_ends (.of_spec fun _ => files_escape _) (isLocal_escape _)
      not_ends_throw)
  · next content himage => exact .inl ⟨content, himage⟩

/-- A run that shows a preview delivers it, or it fails and leaves all files as they are. -/
theorem CallsPreview.delivers_or_kept (hcalls : CallsPreview files words verbose settings o) :
    (∃ d, Delivers service files words d) ∨ ((run service files words).world.files = files ∧
      (run service files words).exitCode ≠ 0) := by
  obtain ⟨told, hreaches⟩ := hcalls.reaches service
  rw [preview_eq] at hreaches
  rcases hreaches.kept_or_goes keepsFiles_firstLabel with ⟨⟨d, label⟩, w₁, hends, hw₁, hgoes⟩ |
    ⟨hfiles, hexit⟩
  case inr => exact .inr ⟨hfiles, hexit isLocal_firstLabel⟩
  obtain ⟨os, given, hdesign, hos, hgiven, hlabel⟩ := ends_firstLabel.mp ⟨w₁, hends⟩
  rcases hgoes.kept_or_goes (.of_spec fun _ => files_needJournaled _ _) with
    ⟨request, w₂, hneed, hw₂, hgoes⟩ | ⟨hfiles, hexit⟩
  case inr => exact .inr ⟨hfiles.trans hw₁, hexit (isLocal_needJournaled _ _)⟩
  have hrequest := (ends_needJournaled.mp hneed).1
  rcases (hgoes.bind_of_ends (ends_modify (u := ()).mpr rfl)).image_or_kept with
    ⟨content, himage⟩ |
    ⟨hfiles, hexit⟩
  case inr => exact .inr ⟨hfiles.trans (hw₂.trans hw₁), hexit⟩
  obtain ⟨habsolute, answer, hreply, hstatus, -⟩ := Request.image_eq_ok.mp himage
  exact .inl ⟨_, .image hcalls hdesign hos hgiven rfl hlabel hrequest habsolute hreply hstatus⟩

/-- A run delivers something, or it leaves all files as they are; then it has failed if it was asked
to write a file. -/
theorem delivers_or_kept (service : Service) (files : FileTree) (words : List Text) :
    (∃ d, Delivers service files words d) ∨ ((run service files words).world.files = files ∧
      ∀ file ≠ [], AsksToWrite words file → (run service files words).exitCode ≠ 0) := by
  have hstart : Reaches service files words (launch words >>= Call.perform service) { files } := by
    rw [Reaches, program_eq]
  rcases hstart.kept_or_goes (.of_spec fun _ => files_launch _) with ⟨call, w, hlaunch, hw, hgoes⟩ |
    ⟨hfiles, hexit⟩
  case inr =>
    refine .inr ⟨hfiles, fun file _ hasks => hexit ?_⟩
    cases hasks with
    | labels hcalls => exact hcalls.isLocal_launch
    | image hcalls => exact hcalls.isLocal_launch
  obtain ⟨notes, rfl⟩ := ends_launch hlaunch
  obtain ⟨told, htold⟩ := exists_told files call.verbose notes
  rw [htold] at hlaunch hgoes
  have hcall := calls_of_ends_launch hlaunch
  obtain ⟨verbose, command, rest, settings⟩ := call
  -- The commands that list something write nothing, and no words ask them to.
  have hlists : command ≠ .compile → command ≠ .preview →
      (Call.perform service ⟨verbose, command, rest, settings⟩).KeepsFiles →
      (run service files words).world.files = files ∧
        ∀ file ≠ [], AsksToWrite words file → (run service files words).exitCode ≠ 0 := by
    intro hcompile hpreview hkeeps
    refine ⟨by rw [hgoes.world_eq, hkeeps], fun file _ hasks => ?_⟩
    exact absurd (hasks.writes hcall) (by simp [hcompile, hpreview])
  cases command with
  | compile =>
    rcases hgoes.kept_or_goes (.of_spec fun _ => files_needOrder _ _) with
      ⟨r, w, horder, -, -⟩ | ⟨hfiles, hexit⟩
    · have hcalls : CallsCompile files words verbose settings r told :=
        ⟨rest, hlaunch, (ends_needOrder.mp horder).1⟩
      rcases hcalls.delivers_or_kept with hdelivers | ⟨hfiles, hexit⟩
      · exact .inl hdelivers
      · refine .inr ⟨hfiles, fun file hfile hasks => hexit ?_⟩
        rw [hasks.output_eq hcall (ends_needOrder.mp horder).1,
          Option.filter_some_pos (by simpa using hfile)]
        exact Option.some_ne_none file
    · exact .inr ⟨hfiles, fun file _ hasks =>
        hexit (isLocal_needOrder _ (hasks.ofWords_compile hcall))⟩
  | preview =>
    rcases hgoes.kept_or_goes (.of_spec fun _ => files_needOrder _ _) with
      ⟨o, w, horder, -, -⟩ | ⟨hfiles, hexit⟩
    · have hcalls : CallsPreview files words verbose settings o :=
        ⟨rest, told, hlaunch, (ends_needOrder.mp horder).1⟩
      exact hcalls.delivers_or_kept.imp_right (And.imp_right fun hexit _ _ _ => hexit)
    · exact .inr ⟨hfiles, fun file _ hasks =>
        hexit (isLocal_needOrder _ (hasks.ofWords_preview hcall))⟩
  | fields => exact .inr (hlists (by decide) (by decide) (keepsFiles_list _ _ _))
  | version => exact .inr (hlists (by decide) (by decide) (keepsFiles_list _ _ _))
  | presets =>
    refine .inr (hlists (by decide) (by decide) (.of_spec fun _ => ?_))
    unfold Call.perform
    mvcgen with grind

/-- How a run ends that has something to deliver. -/
theorem Delivers.ending {d : Delivery} (h : Delivers service files words d) :
    (¬files.Takes d.file ∧ (run service files words).world.files = files ∧
        (run service files words).exitCode ≠ 0) ∨
      (files.Takes d.file ∧
        (run service files words).world.files.bytes (FilePath.ofText d.file) =
          .ok d.result.bytesLeft ∧
        ((run service files words).exitCode = 0 ↔ d.result.bytes?.isSome = true ∧ d.IsTold)) := by
  obtain ⟨w, rfl, hreaches⟩ := h.reaches
  by_cases htakes : w.files.Takes d.file
  · obtain ⟨w', hbytes, hends⟩ := Delivery.run_perform_of_takes htakes
    refine .inr ⟨htakes, ?_⟩
    rcases hends with ⟨hgood, hends⟩ | ⟨hbad, s, hfailure, hstops⟩
    · rw [hreaches.run_of_ends hends]
      exact ⟨hbytes, iff_of_true rfl hgood⟩
    · rw [hreaches.run_of_stops hstops, Stop.world_ending]
      exact ⟨hbytes, iff_of_false (hfailure.exitCode_ne_zero w') hbad⟩
  · obtain ⟨fault, hstops⟩ := Delivery.run_perform_of_not_takes htakes
    rw [hreaches.run_of_stops hstops]
    exact .inl ⟨htakes, rfl, Nat.one_ne_zero⟩

/-- A file is all or nothing: it has the whole result of a run that succeeds, and is as it was after
one that fails. -/
structure IsAllOrNothing (service : Service) (files : FileTree) (words : List Text)
    (file : Text) : Prop where
  whole : (run service files words).exitCode = 0 → ∃ d bytes, Delivers service files words d ∧
    d.file = file ∧ d.result.bytes? = some bytes ∧
    (run service files words).world.files.bytes (FilePath.ofText file) = .ok bytes
  kept : (run service files words).exitCode ≠ 0 →
    (run service files words).world.files.bytes (FilePath.ofText file) =
      files.bytes (FilePath.ofText file)

/-- The file that a run is asked to write is all or nothing but where a result that can be written
has no bytes or cannot be told of, and the file was not just as the run leaves it. Where no file is
asked for, all files stay as they are. -/
theorem all_or_nothing_iff (service : Service) (files : FileTree) (words : List Text) :
    (∀ file ≠ [], AsksToWrite words file →
      (IsAllOrNothing service files words file ↔
        ∀ d, Delivers service files words d → files.Takes file →
          d.result.bytes?.isSome = true ∧ d.IsTold ∨
            files.bytes (FilePath.ofText file) = .ok d.result.bytesLeft)) ∧
    ((∀ file ≠ [], ¬AsksToWrite words file) → (run service files words).world.files = files) := by
  constructor
  · intro file hfile hasks
    constructor
    · intro h d hd htakes
      obtain rfl := hd.asksToWrite.unique hasks
      rcases hd.ending with ⟨hnot, -⟩ | ⟨-, hbytes, hexit⟩
      · exact absurd htakes hnot
      · by_cases hgood : d.result.bytes?.isSome = true ∧ d.IsTold
        · exact .inl hgood
        · exact .inr ((h.kept (mt hexit.mp hgood)).symm.trans hbytes)
    · intro h
      rcases delivers_or_kept service files words with ⟨d, hd⟩ | ⟨hfiles, hexit⟩
      · obtain rfl := hd.asksToWrite.unique hasks
        rcases hd.ending with ⟨-, hfiles, hexit⟩ | ⟨htakes, hbytes, hexit⟩
        · exact ⟨fun h => absurd h hexit, fun _ => by rw [hfiles]⟩
        · refine ⟨fun hzero => ?_, fun hne => ?_⟩
          · obtain ⟨bytes, hsome⟩ := Option.isSome_iff_exists.mp (hexit.mp hzero).1
            refine ⟨d, bytes, hd, rfl, hsome, ?_⟩
            rw [hbytes, Result.bytesLeft, hsome]
            rfl
          · have hsame := (h d hd htakes).resolve_left (mt hexit.mpr hne)
            rw [hbytes, hsame]
      · exact ⟨fun h => absurd h (hexit file hfile hasks), fun _ => by rw [hfiles]⟩
  · intro hnot
    rcases delivers_or_kept service files words with ⟨d, hd⟩ | ⟨hfiles, -⟩
    · have hnil : d.file = [] := by
        by_contra hne
        exact hnot d.file hne hd.asksToWrite
      rcases hd.ending with ⟨-, hfiles, -⟩ | ⟨htakes, -⟩
      · exact hfiles
      · exact absurd (hnil ▸ htakes) (not_takes_nil files)
    · exact hfiles

def filedWords : List Text := ["compile", "d.json", "-o", "b.json"]

def picturedWords : List Text := ["preview", "d.json", "-o", "b.json"]

/-- A service that answers every request with bytes that are no text. -/
def answering : Service := fun _ => .answered { status := 200, content := [0x89, 0x50, 0x4E, 0x47] }

theorem Delivers.of_exitCode {d : Delivery} (h : Delivers service files words d)
    (hexit : (run service files words).exitCode = 0) : d.result.bytes?.isSome = true ∧ d.IsTold := by
  rcases h.ending with ⟨-, -, hne⟩ | ⟨-, -, hiff⟩
  · exact absurd hexit hne
  · exact hiff.mp hexit

end Delivery

section Examples
attribute [local instance] Host.plain

theorem asksToWrite_filedWords : AsksToWrite filedWords "b.json" :=
  .labels ⟨[], _, rfl, nofun, rfl⟩ rfl (by decide) rfl

theorem asksToWrite_picturedWords : AsksToWrite picturedWords "b.json" :=
  .image ⟨[], _, rfl, nofun, rfl⟩ rfl (by decide) rfl

theorem all_or_nothing_of_each :
    IsAllOrNothing noService (inputFiles blank "old") filedWords "b.json" ∧
      IsAllOrNothing answering (inputFiles blank "old") picturedWords "b.json" ∧
      (run noService (inputFiles blank "old") ["compile", "d.json"]).world.files =
        inputFiles blank "old" := by
  have hfiled : (run noService (inputFiles blank "old") filedWords).exitCode = 0 := by
    decide +kernel
  have hpictured : (run answering (inputFiles blank "old") picturedWords).exitCode = 0 := by
    decide +kernel
  refine ⟨?_, ?_, ?_⟩
  · exact ((all_or_nothing_iff _ _ _).1 _ (by decide) asksToWrite_filedWords).mpr
      fun d hd _ => .inl (hd.of_exitCode hfiled)
  · exact ((all_or_nothing_iff _ _ _).1 _ (by decide) asksToWrite_picturedWords).mpr
      fun d hd _ => .inl (hd.of_exitCode hpictured)
  · refine (all_or_nothing_iff _ _ _).2 fun file _ hasks => ?_
    cases hasks with
    | labels hcalls hread _ hfile =>
      obtain ⟨-, rfl⟩ := hcalls.unique (⟨[], _, rfl, nofun, rfl⟩ : Calls _ .compile ["d.json"])
      cases hread
      cases hfile
    | image hcalls =>
      cases (hcalls.unique (⟨[], _, rfl, nofun, rfl⟩ : Calls _ .compile ["d.json"])).1

/-- A design with a text that UTF-8 has no bytes for. -/
def halved : String :=
  "\x7b\"elements\": [\x7b\"kind\": \"text\", \"text\": \"\\ud800\"\x7d]\x7d"

/-- A run that fails because the labels have no bytes leaves the file empty. -/
theorem emptied_by_halved : AsksToWrite filedWords "b.json" ∧
    ¬IsAllOrNothing noService (inputFiles halved "old") filedWords "b.json" := by
  refine ⟨asksToWrite_filedWords, fun h => ?_⟩
  have hexit : (run noService (inputFiles halved "old") filedWords).exitCode ≠ 0 := by
    decide +kernel
  have hempty : ((run noService (inputFiles halved "old") filedWords).world.files.bytes
      (FilePath.ofText "b.json")).toOption = some [] := by
    decide +kernel
  have hold : ((inputFiles halved "old").bytes (FilePath.ofText "b.json")).toOption ≠ some [] := by
    decide +kernel
  rw [h.kept hexit] at hempty
  exact hold hempty

end Examples

end LabelPress.CommandLine
