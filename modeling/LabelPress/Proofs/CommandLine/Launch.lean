import LabelPress.CommandLine.Run
import LabelPress.Proofs.CommandLine.Inputs
import LabelPress.Proofs.Settings.Load

/-!
# From words to a command

A run reads its words and its settings before it turns to the command that they name. Until then it
has printed nothing, changed no file and sent no request, so what becomes of a run is what becomes
of its command.
-/

namespace LabelPress

namespace CommandLine

open Program

structure Call where
  verbose : Bool
  command : CommandName
  words : List Text
  settings : Settings

def launch [Host] (words : List Text) : Program Call := do
  if words.isEmpty then
    complain helpPage
    throw (.exit 2)
  let (choice, words) ← ProgramChoice.ofWords words
  let (command, words) ← commandOf words
  let settings ← loadSettings choice.verbose choice.config
  return ⟨choice.verbose, command, words, settings⟩

def Call.perform [Host] (service : Service) (c : Call) : Program Unit := do
  match c.command with
  | .compile =>
    compile c.verbose c.settings (← needOrder .compile (CompileRequest.ofWords c.words))
  | .preview =>
    preview service c.verbose c.settings (← needOrder .preview (PreviewOrder.ofWords c.words))
  | .fields =>
    needOrder .fields (noWords c.words)
    print fieldsTable.text
  | .presets =>
    needOrder .presets (noWords c.words)
    print (← need (presetsTable c.settings.dpi)).text
  | .version =>
    needOrder .version (noWords c.words)
    print versionLine

theorem program_eq [Host] (service : Service) (words : List Text) :
    program service words = launch words >>= Call.perform service := by
  unfold program launch
  split
  · rfl
  · simp only [bind_assoc, pure_bind]
    rfl

section Launch
variable {w w' : World} {words rest : List Text}

theorem ends_mustBeFile {option file : Text} {u : Unit} (h : (mustBeFile option file).Ends w u w') :
    w' = w := by
  simp only [mustBeFile, ends_bind, ends_need, ends_get] at h
  obtain ⟨_, _, ⟨-, rfl⟩, _, _, ⟨rfl, rfl⟩, h⟩ := h
  split at h
  · exact (ends_pure.mp h).2
  · exact absurd h not_ends_refuse
  · exact absurd h not_ends_refuse

theorem ends_choice {choice : ProgramChoice}
    (h : (ProgramChoice.ofWords words).Ends w (choice, rest) w') : w' = w := by
  simp only [ProgramChoice.ofWords, ends_bind, ends_needWords] at h
  obtain ⟨_, _, ⟨-, rfl⟩, h⟩ := h
  split at h
  · obtain ⟨_, _, hanswer, -⟩ := ends_bind.mp h
    exact absurd hanswer not_ends_answer
  · obtain ⟨_, _, hanswer, -⟩ := ends_bind.mp h
    exact absurd hanswer not_ends_answer
  · split at h
    · obtain ⟨_, _, hfile, hpure⟩ := ends_bind.mp h
      exact (ends_pure.mp hpure).2.trans (ends_mustBeFile hfile)
    · exact (ends_pure.mp h).2

theorem ends_commandOf {command : CommandName} (h : (commandOf words).Ends w (command, rest) w') :
    w' = w := by
  unfold commandOf at h
  split at h
  · exact absurd h not_ends_refuse
  · split at h
    · obtain ⟨_, _, hchoice, htail⟩ := ends_bind.mp h
      obtain ⟨_, _, hwords, hpure⟩ := ends_bind.mp htail
      exact (ends_pure.mp hpure).2.trans ((ends_needWords.mp hwords).2.trans (ends_choice hchoice))
    · obtain ⟨_, _, hwords, hpure⟩ := ends_bind.mp h
      exact (ends_pure.mp hpure).2.trans (ends_needWords.mp hwords).2

theorem ends_loadSettings [Host] {verbose : Bool} {config : Option Text} {settings : Settings}
    (h : (loadSettings verbose config).Ends w settings w') :
    w' = w.told verbose (Settings.load w.files config).notes := by
  simp only [loadSettings, ends_bind, ends_get, ends_journaled] at h
  obtain ⟨_, _, ⟨rfl, rfl⟩, _, _, ⟨rfl, rfl⟩, h⟩ := h
  split at h
  · exact (ends_pure.mp h).2
  · exact absurd h not_ends_failWith
  · exact absurd h not_ends_throw

/-- A run turns to its command with nothing done but what it has told, which it does only if it is
verbose. -/
theorem ends_launch [Host] {files : FileTree} {call : Call}
    (h : (launch words).Ends { files } call w') :
    ∃ notes, w' = ({ files } : World).told call.verbose notes := by
  unfold launch at h
  split at h
  · obtain ⟨_, _, -, hthrow⟩ := ends_bind.mp h
    exact absurd (ends_bind.mp hthrow) fun ⟨_, _, hends, _⟩ => not_ends_throw hends
  · obtain ⟨choice, _, hchoice, hcommand⟩ := ends_bind.mp h
    obtain ⟨command, _, hcommand, hsettings⟩ := ends_bind.mp hcommand
    obtain ⟨settings, _, hsettings, hpure⟩ := ends_bind.mp hsettings
    cases ends_choice hchoice
    cases ends_commandOf hcommand
    cases ends_loadSettings hsettings
    cases hpure
    exact ⟨_, rfl⟩

/-- What a run that is verbose or not has told when it turns to its command. -/
theorem exists_told [Host] (files : FileTree) (verbose : Bool) (notes : List Note) :
    ∃ told, ({ files } : World).told verbose notes = { files, err := told } := by
  cases verbose <;> exact ⟨_, rfl⟩

theorem readWords_plain {α : Type} (specs : List (OptionSpec α)) {word : Text}
    (hword : isOption word = false) (rest : List Text) :
    readWords specs false (word :: rest) = .ok ([], word :: rest) := by
  have hdashes : word ≠ "--" := by
    rintro rfl
    cases hword
  cases rest with
  | nil => rw [readWords, if_neg hdashes, if_neg (by simp [hword])]
  | cons next rest =>
    rw [readWords, if_neg hdashes, if_neg (by simp [hword]), if_neg Bool.false_ne_true]

/-- A run whose first word names a command turns to it with the packaged settings. -/
theorem launch_plain [Host] {files : FileTree} {word : Text} {command : CommandName}
    (hoption : isOption word = false) (hcommand : CommandName.ofWord? word = some command) :
    (launch (word :: rest)).Ends { files } ⟨false, command, rest, .packaged⟩ { files } := by
  have hchoice : (ProgramChoice.ofWords (word :: rest)).Ends { files }
      (⟨none, false⟩, word :: rest) { files } := by
    unfold ProgramChoice.ofWords
    rw [readWords_plain programOptions hoption]
    rfl
  have hword : (commandOf (word :: rest)).Ends { files } (command, rest) { files } := by
    unfold commandOf
    simp only [hcommand, CommandName.ofWord]
    rfl
  have hsettings : (loadSettings false none).Ends { files } .packaged { files } := by
    unfold loadSettings
    simp only [Settings.load_none]
    rfl
  unfold launch
  refine ends_bind.mpr ⟨_, _, hchoice, ends_bind.mpr ⟨_, _, hword, ends_bind.mpr
    ⟨_, _, hsettings, ?_⟩⟩⟩
  rfl

end Launch

/-! ## From a command to the end of the run -/

section Ending
variable {service : Service} {files : FileTree} {words : List Text} {call : Call} {w w' : World}

def Stop.ending (w : World) : Stop → Ending
  | .exit code => ⟨w, code, none⟩
  | .escaped fault => ⟨w, 1, some fault⟩

theorem Stop.IsFailure.exitCode_ne_zero {s : Stop} (h : s.IsFailure) (w : World) :
    (s.ending w).exitCode ≠ 0 := by
  cases s with
  | exit code => exact h
  | escaped fault => exact Nat.one_ne_zero

@[simp] theorem Stop.world_ending (s : Stop) (w : World) : (s.ending w).world = w := by
  cases s <;> rfl

variable [Host]

theorem run_of_ends {u : Unit} (h : (program service words).Ends { files } u w') :
    run service files words = ⟨w', 0, none⟩ := by
  rw [run, show (program service words).run { files } = _ from h]

theorem run_of_stops {s : Stop} (h : (program service words).Stops { files } s w') :
    run service files words = s.ending w' := by
  rw [run, show (program service words).run { files } = _ from h]
  cases s <;> rfl

/-- A run carries out a part from a world on: all it does before is to get there. -/
def Reaches (service : Service) (files : FileTree) (words : List Text) (x : Program Unit)
    (w : World) : Prop :=
  (program service words).run { files } = x.run w

theorem reaches_of_launch (h : (launch words).Ends { files } call w) :
    Reaches service files words (call.perform service) w := by
  rw [Reaches, program_eq]
  exact run_bind_of_ends h

namespace Reaches
variable {x : Program Unit}

theorem run_of_ends (h : Reaches service files words x w) {u : Unit} (hx : x.Ends w u w') :
    run service files words = ⟨w', 0, none⟩ :=
  CommandLine.run_of_ends (h.trans hx)

theorem run_of_stops (h : Reaches service files words x w) {s : Stop} (hx : x.Stops w s w') :
    run service files words = s.ending w' :=
  CommandLine.run_of_stops (h.trans hx)

/-- Once the first part has come to its end, the run goes on with the rest. -/
theorem bind_of_ends {α : Type} {y : Program α} {f : α → Program Unit} {a : α}
    (h : Reaches service files words (y >>= f) w) (hy : y.Ends w a w') :
    Reaches service files words (f a) w' :=
  Eq.trans h (run_bind_of_ends hy)

theorem world_eq (h : Reaches service files words x w) :
    (run service files words).world = (x.run w).2 := by
  rcases ends_or_stops x w with ⟨⟨⟩, w', hends⟩ | ⟨s, w', hstops⟩
  · rw [h.run_of_ends hends, show x.run w = _ from hends]
  · rw [h.run_of_stops hstops, Stop.world_ending, show x.run w = _ from hstops]

/-- A run that succeeds has come to the end of a part that stops only in failure. -/
theorem exists_ends (h : Reaches service files words x w) (hx : x.IsLocal)
    (hexit : (run service files words).exitCode = 0) :
    ∃ w', x.Ends w () w' ∧ run service files words = ⟨w', 0, none⟩ := by
  rcases ends_or_stops x w with ⟨⟨⟩, w', hends⟩ | ⟨s, w', hstops⟩
  · exact ⟨w', hends, h.run_of_ends hends⟩
  · rw [h.run_of_stops hstops] at hexit
    exact absurd hexit ((hx.isFailure hstops).exitCode_ne_zero w')

end Reaches

end Ending

end CommandLine
end LabelPress
