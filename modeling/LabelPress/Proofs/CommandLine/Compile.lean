import LabelPress.Proofs.CommandLine.Launch
import LabelPress.Proofs.Files.Tree
import LabelPress.Proofs.Label.Formats

/-!
# What the command that compiles prints

The command compiles the design once for each set of bindings, with the words laid over every set,
and puts the labels on the standard output or into a file, with a line feed behind them.
-/

namespace LabelPress.CommandLine

open Program

/-! ## Files that a run writes -/

section Files
variable {file : Text} {bytes : List UInt8} {w w' : World} {u : Unit}

theorem ends_putFile :
    (putFile file bytes).Ends w u w' ↔ FileTree.checkPath file = .ok () ∧ ∃ files,
      w.files.write (FilePath.ofText file) bytes = .ok files ∧ w' = { w with files } := by
  simp only [putFile, ends_bind, ends_need, ends_get]
  constructor
  · rintro ⟨_, _, ⟨hpath, rfl⟩, _, _, ⟨rfl, rfl⟩, h⟩
    split at h
    · next files hfiles => exact ⟨hpath, files, hfiles, ends_modify.mp h⟩
    · exact absurd h not_ends_throw
  · rintro ⟨hpath, files, hfiles, rfl⟩
    refine ⟨(), w, ⟨hpath, rfl⟩, w, w, ⟨rfl, rfl⟩, ?_⟩
    rw [hfiles]
    exact ends_modify.mpr rfl

theorem isLocal_putFile (file : Text) (bytes : List UInt8) : (putFile file bytes).IsLocal := by
  refine .bind (isLocal_need _) fun _ => .bind isLocal_get fun w => ?_
  split
  · exact isLocal_modify fun _ => rfl
  · exact isLocal_escape _

theorem ends_writeFile {text : Text} (h : (writeFile file text).Ends w u w') :
    w'.out = w.out ∧ ∃ s, Text.string? text = some s ∧
      w'.files.bytes (FilePath.ofText file) = .ok (Text.Utf8.encode s) := by
  simp only [writeFile, ends_bind, ends_putFile, ends_need, mapError_eq_ok,
    Text.encoded_eq_ok] at h
  obtain ⟨_, _, ⟨-, files, hempty, rfl⟩, _, _, ⟨⟨s, hs, rfl⟩, rfl⟩, -, files', hwrite, rfl⟩ := h
  exact ⟨rfl, s, hs, FileTree.bytes_write hwrite⟩

theorem isLocal_writeFile (file text : Text) : (writeFile file text).IsLocal :=
  .bind (isLocal_putFile _ _) fun _ => .bind (isLocal_need _) fun _ => isLocal_putFile _ _

end Files

/-! ## The command that compiles -/

/-- Words call the command that compiles, with a request; `told` is what the run has told when it
turns to that. -/
def CallsCompile [Host] (files : FileTree) (words : List Text) (verbose : Bool)
    (settings : Settings) (r : CompileRequest) (told : Text) : Prop :=
  ∃ rest, (launch words).Ends { files } ⟨verbose, .compile, rest, settings⟩
    { files, err := told } ∧ CompileRequest.ofWords rest = .ok (some r)

def CompileRequest.target (r : CompileRequest) (settings : Settings) : Target :=
  settings.target (if r.catalog then some Catalog.builtin else none) r.copies

/-- A text is all that a request has put where it puts its labels: on the standard output, or in the
file that it names. -/
def CompileRequest.PutsOut (r : CompileRequest) (w : World) (text : Text) : Prop :=
  match r.output.filter fun file => !file.isEmpty with
  | none => w.out = text
  | some file => w.out = [] ∧ ∃ s, Text.string? text = some s ∧
      w.files.bytes (FilePath.ofText file) = .ok (Text.Utf8.encode s)

section Compile
variable [Host] {service : Service} {files : FileTree} {words : List Text} {verbose : Bool}
  {settings : Settings} {r : CompileRequest} {told : Text} {w w' : World}

theorem CallsCompile.reaches (h : CallsCompile files words verbose settings r told) :
    Reaches service files words (compile verbose settings r) { files, err := told } := by
  obtain ⟨rest, hlaunch, hr⟩ := h
  refine (reaches_of_launch hlaunch).trans ?_
  simp only [Call.perform, hr]
  rfl

/-- What the command that compiles has done when it comes to its end. -/
theorem ends_compile {u : Unit} (h : (compile verbose settings r).Ends w u w') (hout : w.out = []) :
    ∃ d os given text, (designOf w.files settings r.file).outcome = .ok d ∧
      bindings r.binds = .ok os ∧ GivesSets w.files r.bindings given ∧
      ((r.target settings).compileBatch
        ((if given.isEmpty then [[]] else given).map (overlaid os)) d).outcome = .ok text ∧
      r.PutsOut w' (text ++ "\n") := by
  simp only [compile, ends_bind, ends_loadDesign, ends_bindingSets, ends_needJournaled] at h
  obtain ⟨d, _, ⟨hd, rfl⟩, _, _, ⟨os, given, hos, hgiven, rfl, rfl⟩, text, _, ⟨htext, rfl⟩, h⟩ := h
  simp only [World.files_told] at hgiven
  refine ⟨d, os, given, text, hd, hos, hgiven, htext, ?_⟩
  split at h
  · next hnone =>
    obtain ⟨-, rfl⟩ := ends_print.mp h
    simp only [CompileRequest.PutsOut, hnone, World.out_told, hout, List.nil_append]
  · next file hfile =>
    obtain ⟨_, w₁, hwrite, htold⟩ := ends_bind.mp h
    obtain ⟨line, w₂, hline, hcomplain⟩ := ends_bind.mp htold
    obtain ⟨-, rfl⟩ := ends_need.mp hline
    obtain rfl := ends_complain.mp hcomplain
    obtain ⟨hsame, s, hs, hbytes⟩ := ends_writeFile hwrite
    simp only [World.out_told, hout] at hsame
    simp only [CompileRequest.PutsOut, hfile]
    exact ⟨hsame, s, hs, hbytes⟩

theorem isLocal_compile (verbose : Bool) (settings : Settings) (r : CompileRequest) :
    (compile verbose settings r).IsLocal := by
  refine .bind (isLocal_loadDesign _ _ _) fun d => .bind (isLocal_bindingSets _ _ _) fun sets =>
    .bind (isLocal_needJournaled _ _) fun labels => ?_
  split
  · exact isLocal_printOr _ _
  · exact .bind (isLocal_writeFile _ _) fun _ => .bind (isLocal_need _) fun _ =>
      isLocal_complain _

/-- What a run that compiles has done when it succeeds. -/
theorem CallsCompile.of_exitCode (h : CallsCompile files words verbose settings r told)
    (hexit : (run service files words).exitCode = 0) :
    ∃ d os given text, (designOf files settings r.file).outcome = .ok d ∧
      bindings r.binds = .ok os ∧ GivesSets files r.bindings given ∧
      ((r.target settings).compileBatch
        ((if given.isEmpty then [[]] else given).map (overlaid os)) d).outcome = .ok text ∧
      r.PutsOut (run service files words).world (text ++ "\n") := by
  obtain ⟨w', hends, hrun⟩ := h.reaches.exists_ends (isLocal_compile verbose settings r) hexit
  have hout : ({ files, err := told } : World).out = [] := rfl
  obtain ⟨d, os, given, text, hd, hos, hgiven, htext, hputs⟩ := ends_compile hends hout
  exact ⟨d, os, given, text, hd, hos, hgiven, htext, hrun ▸ hputs⟩

end Compile

/-! ## Labels and sets of bindings -/

/-- A run is given sets of bindings: an empty one where no file is named, the mapping of a file, or
the mappings that a file has in a list. -/
inductive BindingSource [Host] (files : FileTree) : Option Text → List Entries → Prop
  | absent : BindingSource files none [[]]
  | mapping {file : Text} {v : Value} {entries : Entries} (hfile : files.HoldsBindings file v)
      (hv : v.head = .mapping entries) : BindingSource files (some file) [entries]
  | list {file : Text} {v : Value} {items : List Value} {sets : List Entries}
      (hfile : files.HoldsBindings file v) (hv : v.head = .list items) (hitems : items ≠ [])
      (hsets : List.Forall₂ (fun item set => item.head = .mapping set) items sets) :
      BindingSource files (some file) sets

section Labels
variable [Host] {service : Service} {files : FileTree} {words : List Text} {verbose : Bool}
  {settings : Settings} {r : CompileRequest} {told : Text}

theorem BindingSource.gives {file : Option Text} {sets : List Entries}
    (h : BindingSource files file sets) :
    ∃ given, GivesSets files file given ∧ (if given.isEmpty then [[]] else given) = sets := by
  cases h with
  | absent => exact ⟨[], rfl, rfl⟩
  | mapping hfile hv => exact ⟨_, ⟨_, hfile, setsOf?_of_mapping hv⟩, rfl⟩
  | @list file v items sets hfile hv hitems hsets =>
    refine ⟨sets, ⟨v, hfile, setsOf?_of_list hv hsets⟩, if_neg fun hempty => ?_⟩
    rw [List.isEmpty_iff.mp hempty, List.forall₂_nil_right_iff] at hsets
    exact hitems hsets

/-- A file that has a list of mappings gets one label for each of them, and one label if the list is
empty. -/
theorem CallsCompile.one_format_per_set {file : Text} {v : Value} {items : List Value}
    (h : CallsCompile files words verbose settings r told) (hfile : r.bindings = some file)
    (hholds : files.HoldsBindings file v) (hlist : v.head = .list items)
    (hitems : ∀ item ∈ items, ∃ entries, item.head = .mapping entries)
    (hexit : (run service files words).exitCode = 0) :
    ∃ text, r.PutsOut (run service files words).world text ∧
      text.occurrences "^XA" = max 1 items.length := by
  obtain ⟨d, os, given, text, -, -, hgiven, htext, hputs⟩ := h.of_exitCode hexit
  refine ⟨text ++ "\n", hputs, ?_⟩
  obtain ⟨sets, hsets⟩ := exists_forall₂_iff.mpr hitems
  have hgives : GivesSets files r.bindings sets := by
    rw [hfile]
    exact ⟨v, hholds, setsOf?_of_list hlist hsets⟩
  cases hgiven.unique hgives
  have hname : Text.ofString "XA" ∈ Frame.bounds := by decide
  have hcount := Target.occurrences_compileBatch htext hname
  rw [List.length_map] at hcount
  refine Eq.trans hcount ?_
  rw [hsets.length_eq]
  cases given with
  | nil => rfl
  | cons set sets =>
    rw [if_neg (by simp), List.length_cons]
    omega

def inputFiles (design bindings : String) : FileTree where
  entries := [
    (.ofText "d.json", .file (Text.Utf8.encode design)),
    (.ofText "b.json", .file (Text.Utf8.encode bindings))]

def blank : String := "\x7b\x7d"

def twoSets : String := "[\x7b\"k\": \"a\"\x7d, \x7b\"k\": \"b\", \"n\": \"c\"\x7d]"

def twoSetItems : List Value := [
  .mapping [(.text "k", .text "a")],
  .mapping [(.text "k", .text "b"), (.text "n", .text "c")]]

def noService : Service := fun _ => .unanswered "no route"

def boundWords (binds : List Text) : List Text :=
  "compile" :: "d.json" :: "--bindings" :: "b.json" :: binds.flatMap fun word => ["--bind", word]

def boundRequest (binds : List Text) : CompileRequest where
  file := "d.json"
  binds := binds
  bindings := some "b.json"
  copies := oneCopy
  catalog := false
  output := none

theorem callsCompile_of_words {rest : List Text} (h : CompileRequest.ofWords rest = .ok (some r)) :
    CallsCompile files ("compile" :: rest) false .packaged r "" :=
  ⟨rest, launch_plain rfl rfl, h⟩

end Labels

section Examples
attribute [local instance] Host.plain

theorem holdsBindings_twoSets (design : String) :
    (inputFiles design twoSets).HoldsBindings "b.json" (.list twoSetItems) := by
  refine ⟨rfl, Text.Utf8.encode twoSets, twoSets, rfl, ?_, ?_⟩
  · decide +kernel
  · cbv

theorem one_format_per_set_of_two :
    ∃ text, (boundRequest []).PutsOut
        (run noService (inputFiles blank twoSets) (boundWords [])).world text ∧
      text.occurrences "^XA" = 2 := by
  have hcall : CallsCompile (inputFiles blank twoSets) (boundWords []) false .packaged
      (boundRequest []) "" := callsCompile_of_words rfl
  have hitems : ∀ item ∈ twoSetItems, ∃ entries, item.head = .mapping entries := by
    simp [twoSetItems, Value.head]
  have hexit : (run noService (inputFiles blank twoSets) (boundWords [])).exitCode = 0 := by
    decide +kernel
  exact hcall.one_format_per_set rfl (holdsBindings_twoSets blank) rfl hitems hexit

/-- With an empty list of sets one label is printed, and not none. -/
theorem format_for_no_set :
    CallsCompile (inputFiles blank "[]") (boundWords []) false .packaged (boundRequest []) "" ∧
      (inputFiles blank "[]").HoldsBindings "b.json" (.list []) ∧
      (run noService (inputFiles blank "[]") (boundWords [])).exitCode = 0 ∧
      ¬∃ text, (boundRequest []).PutsOut
          (run noService (inputFiles blank "[]") (boundWords [])).world text ∧
        text.occurrences "^XA" = ([] : List Value).length := by
  have hrun : (run noService (inputFiles blank "[]") (boundWords [])).exitCode = 0 ∧
      (run noService (inputFiles blank "[]") (boundWords [])).world.out.occurrences "^XA" = 1 := by
    decide +kernel
  refine ⟨callsCompile_of_words rfl, ⟨rfl, Text.Utf8.encode "[]", "[]", rfl, ?_, ?_⟩, hrun.1, ?_⟩
  · decide +kernel
  · cbv
  · rintro ⟨text, rfl, hcount⟩
    cases hrun.2.symm.trans hcount

end Examples

section Merged
variable [Host] {service : Service} {files : FileTree} {words : List Text} {verbose : Bool}
  {settings : Settings} {r : CompileRequest} {told : Text}

/-- The labels of a run that succeeds are those of its sets of bindings, in order, each with the
words laid over it. A word that binds nothing ends a run whose design can be read with a refusal,
whatever is in its file of bindings, and with nothing printed. -/
theorem CallsCompile.merges_bindings (h : CallsCompile files words verbose settings r told) :
    (∀ sets, BindingSource files r.bindings sets → (run service files words).exitCode = 0 →
      ∃ d merged labels, (designOf files settings r.file).outcome = .ok d ∧
        List.Forall₂ (IsMerged r.binds) sets merged ∧
        List.Forall₂ (fun set label => ((r.target settings).compile set d).outcome = .ok label)
          merged labels ∧
        r.PutsOut (run service files words).world
          (Command.joined (labels.map Label.text) ++ "\n")) ∧
    (∀ d, (designOf files settings r.file).outcome = .ok d →
      (∃ word ∈ r.binds, BindsNothing word) →
      ∃ word ∈ r.binds, BindsNothing word ∧
        let noted := ({ files, err := told } : World).told verbose
          (designOf files settings r.file).notes
        run service files words = {
          world := { files, err := noted.err ++ escapeHalves (Usage.compile.refusal (.binding word)) }
          exitCode := 2
          escaped := none }) := by
  constructor
  · intro sets hsource hexit
    obtain ⟨d, os, given, text, hd, hos, hgiven, htext, hputs⟩ := h.of_exitCode hexit
    obtain ⟨given', hgiven', hsets⟩ := hsource.gives
    cases hgiven.unique hgiven'
    rw [hsets] at htext
    obtain ⟨labels, hlabels, rfl⟩ := Target.compileBatch_eq_ok.mp htext
    refine ⟨d, sets.map (overlaid os), labels, hd, ?_, hlabels, hputs⟩
    exact List.forall₂_map_right_iff.mpr
      (List.forall₂_same.mpr fun set _ => isMerged_overlaid hos set)
  · intro d hd hbad
    obtain ⟨word, hmem, hnothing, hrefused⟩ := stops_bindingSets r.bindings hbad
    refine ⟨word, hmem, hnothing, ?_⟩
    have hstops : (compile verbose settings r).Stops { files, err := told } (.exit 2) _ :=
      stops_bind.mpr (.inr ⟨d, _, ends_loadDesign.mpr ⟨hd, rfl⟩, stops_bind_of_stops (hrefused _)⟩)
    rw [h.reaches.run_of_stops hstops]
    cases verbose <;> rfl

end Merged

section Examples
attribute [local instance] Host.plain

def bound : String :=
  "\x7b\"elements\": [\x7b\"kind\": \"text\", \"is_dynamic\": true, \"field_key\": \"k\"\x7d]\x7d"

theorem merges_bindings_of_two :
    (∃ d merged labels, (designOf (inputFiles bound twoSets) .packaged "d.json").outcome = .ok d ∧
      List.Forall₂ (IsMerged ["k=x", "k=y=z"])
        [[(.text "k", .text "a")], [(.text "k", .text "b"), (.text "n", .text "c")]] merged ∧
      List.Forall₂ (fun set label =>
        ((Settings.packaged.target none oneCopy).compile set d).outcome = .ok label)
          merged labels ∧
      (run noService (inputFiles bound twoSets) (boundWords ["k=x", "k=y=z"])).world.out =
        Command.joined (labels.map Label.text) ++ "\n") ∧
    (run noService (inputFiles blank "\x7b") (boundWords ["k=x", "=y"])).exitCode = 2 := by
  constructor
  · have hcall : CallsCompile (inputFiles bound twoSets) (boundWords ["k=x", "k=y=z"]) false
        .packaged (boundRequest ["k=x", "k=y=z"]) "" := callsCompile_of_words rfl
    have hsource : BindingSource (inputFiles bound twoSets) (some "b.json")
        [[(.text "k", .text "a")], [(.text "k", .text "b"), (.text "n", .text "c")]] :=
      .list (holdsBindings_twoSets bound) rfl (by simp [twoSetItems])
        (.cons rfl (.cons rfl .nil))
    have hexit : (run noService (inputFiles bound twoSets) (boundWords ["k=x", "k=y=z"])).exitCode =
        0 := by
      decide +kernel
    exact hcall.merges_bindings.1 _ hsource hexit
  · have hcall : CallsCompile (inputFiles blank "\x7b") (boundWords ["k=x", "=y"]) false .packaged
        (boundRequest ["k=x", "=y"]) "" := callsCompile_of_words rfl
    have hok : (designOf (inputFiles blank "\x7b") .packaged "d.json").outcome.isOk = true := by
      decide +kernel
    obtain ⟨d, hd⟩ := exists_eq_ok hok
    have hbad : ∃ word ∈ (boundRequest ["k=x", "=y"]).binds, BindsNothing word :=
      ⟨"=y", by simp [boundRequest], .inr rfl⟩
    obtain ⟨word, -, -, hrun⟩ := hcall.merges_bindings.2 d hd hbad
    rw [hrun]

end Examples

end LabelPress.CommandLine
