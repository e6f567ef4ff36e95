import Mathlib
import LabelPress.Proofs.CommandLine.Compile

/-!
# What a run does to files

Only the writing of a result changes files. It opens the file first, so that a text without bytes
leaves the file empty.
-/

open Std.Do

set_option mvcgen.warning false

namespace LabelPress

/-- A file can be written at a path. -/
def FileTree.Takes (t : FileTree) (file : Text) : Prop :=
  checkPath file = .ok () ∧ t.LeadsToFile (FilePath.ofText file)

namespace CommandLine

open Program

inductive Result where
  | labels (text : Text)
  | image (content : List UInt8)

/-- The bytes of a result. Labels have none if UTF-8 has none for one of their code points. -/
def Result.bytes? : Result → Option (List UInt8)
  | labels text => (Text.string? text).map Text.Utf8.encode
  | image content => some content

def Result.bytesLeft (r : Result) : List UInt8 := r.bytes?.getD []

def Result.write (file : Text) : Result → Program Unit
  | labels text => writeFile file text
  | image content => putFile file content

abbrev sameFiles {α : Type} (files : FileTree) : PostCond α (.except Stop (.arg World .pure)) :=
  post⟨fun _ w => ⌜w.files = files⌝, fun _ w => ⌜w.files = files⌝⟩

/-- A part of a run leaves the files as they are, whether it comes to its end or stops. -/
def Program.KeepsFiles {α : Type} (x : Program α) : Prop :=
  ∀ w, (x.run w).2.files = w.files

namespace Program.KeepsFiles
variable {α : Type} {x : Program α} {w w' : World}

theorem of_spec (h : ∀ files, ⦃fun w => ⌜w.files = files⌝⦄ x ⦃sameFiles files⦄) :
    x.KeepsFiles := by
  intro w
  have hx := h w.files w rfl
  refine StateM.of_wp_run_eq (show StateT.run (ExceptT.run x) w = x.run w from rfl)
    (fun r => r.2.files = w.files) ?_
  rw [WP.ExceptT_run]
  exact fun _ => hx

theorem files_of_ends (h : x.KeepsFiles) {a : α} (hx : x.Ends w a w') : w'.files = w.files := by
  rw [← h w, show x.run w = _ from hx]

theorem files_of_stops (h : x.KeepsFiles) {s : Stop} (hx : x.Stops w s w') :
    w'.files = w.files := by
  rw [← h w, show x.run w = _ from hx]

end Program.KeepsFiles

section Unwritten
variable {α : Type} {files : FileTree}

@[spec] theorem files_escape (fault : Fault) :
    ⦃fun w => ⌜w.files = files⌝⦄ (escape fault : Program α) ⦃sameFiles files⦄ := by
  mvcgen [escape]

@[spec] theorem files_need (e : Except Fault α) :
    ⦃fun w => ⌜w.files = files⌝⦄ need e ⦃sameFiles files⦄ := by
  mvcgen [need]

@[spec] theorem files_complain (t : Text) :
    ⦃fun w => ⌜w.files = files⌝⦄ complain t ⦃sameFiles files⦄ := by
  mvcgen [complain]

@[spec] theorem files_printOr (fault : Text.EncodingFault → Fault) (t : Text) :
    ⦃fun w => ⌜w.files = files⌝⦄ printOr fault t ⦃sameFiles files⦄ := by
  mvcgen [printOr] with grind

@[spec] theorem files_print (t : Text) :
    ⦃fun w => ⌜w.files = files⌝⦄ print t ⦃sameFiles files⦄ :=
  files_printOr _ t

@[spec] theorem files_refuse (u : Usage) (fault : UsageFault) :
    ⦃fun w => ⌜w.files = files⌝⦄ (refuse u fault : Program α) ⦃sameFiles files⦄ := by
  mvcgen [refuse] with grind

@[spec] theorem files_needWords (u : Usage) (e : Except UsageFault α) :
    ⦃fun w => ⌜w.files = files⌝⦄ needWords u e ⦃sameFiles files⦄ := by
  mvcgen [needWords]

@[spec] theorem files_answer (t : Text) :
    ⦃fun w => ⌜w.files = files⌝⦄ (answer t : Program α) ⦃sameFiles files⦄ := by
  mvcgen [answer] with grind

@[spec] theorem files_needOrder (u : Usage) (e : Except UsageFault (Option α)) :
    ⦃fun w => ⌜w.files = files⌝⦄ needOrder u e ⦃sameFiles files⦄ := by
  mvcgen [needOrder] with grind

@[spec] theorem files_mustBeFile (option file : Text) :
    ⦃fun w => ⌜w.files = files⌝⦄ mustBeFile option file ⦃sameFiles files⦄ := by
  mvcgen [mustBeFile] with grind

@[spec] theorem files_choice (words : List Text) :
    ⦃fun w => ⌜w.files = files⌝⦄ ProgramChoice.ofWords words ⦃sameFiles files⦄ := by
  mvcgen [ProgramChoice.ofWords] with grind

@[spec] theorem files_commandOf (words : List Text) :
    ⦃fun w => ⌜w.files = files⌝⦄ commandOf words ⦃sameFiles files⦄ := by
  mvcgen [commandOf] with grind

variable [Host]

@[spec] theorem files_failWith (t : Text) :
    ⦃fun w => ⌜w.files = files⌝⦄ (failWith t : Program α) ⦃sameFiles files⦄ := by
  mvcgen [failWith, shown] with grind

@[spec] theorem files_journaled (verbose : Bool) (x : Journaled α) :
    ⦃fun w => ⌜w.files = files⌝⦄ journaled verbose x ⦃sameFiles files⦄ := by
  mvcgen [journaled] with grind

@[spec] theorem files_needJournaled (verbose : Bool) (x : Journaled α) :
    ⦃fun w => ⌜w.files = files⌝⦄ needJournaled verbose x ⦃sameFiles files⦄ := by
  mvcgen [needJournaled] with grind

@[spec] theorem files_loadDesign (verbose : Bool) (settings : Settings) (file : Text) :
    ⦃fun w => ⌜w.files = files⌝⦄ loadDesign verbose settings file ⦃sameFiles files⦄ := by
  mvcgen [loadDesign, failWithError] with grind

@[spec] theorem files_readSets (file : Text) :
    ⦃fun w => ⌜w.files = files⌝⦄ readSets file ⦃sameFiles files⦄ := by
  mvcgen [readSets, failWithError] with grind

@[spec] theorem files_bindingSets (u : Usage) (words : List Text) (file : Option Text) :
    ⦃fun w => ⌜w.files = files⌝⦄ bindingSets u words file ⦃sameFiles files⦄ := by
  mvcgen [bindingSets] with grind

@[spec] theorem files_loadSettings (verbose : Bool) (config : Option Text) :
    ⦃fun w => ⌜w.files = files⌝⦄ loadSettings verbose config ⦃sameFiles files⦄ := by
  mvcgen [loadSettings] with grind

theorem files_launch (words : List Text) :
    ⦃fun w => ⌜w.files = files⌝⦄ launch words ⦃sameFiles files⦄ := by
  mvcgen [launch] with grind

end Unwritten

section Written
variable {file text : Text} {w w' : World}

theorem exists_ends_putFile (bytes : List UInt8) :
    (∃ w', (putFile file bytes).Ends w () w') ↔ w.files.Takes file := by
  simp only [ends_putFile, FileTree.Takes, ← FileTree.exists_write_iff bytes]
  constructor
  · rintro ⟨_, hpath, files, hfiles, -⟩
    exact ⟨hpath, files, hfiles⟩
  · rintro ⟨hpath, files, hfiles⟩
    exact ⟨_, hpath, files, hfiles, rfl⟩

theorem stops_putFile (h : ¬w.files.Takes file) (bytes : List UInt8) :
    ∃ fault, (putFile file bytes).Stops w (.escaped fault) w := by
  cases hpath : FileTree.checkPath file with
  | error fault =>
    refine ⟨fault, stops_bind_of_stops ?_⟩
    rw [hpath]
    rfl
  | ok u =>
    cases hwrite : w.files.write (FilePath.ofText file) bytes with
    | ok files => exact absurd ⟨hpath, (FileTree.exists_write_iff bytes).mp ⟨files, hwrite⟩⟩ h
    | error fault =>
      have hneed : (need (FileTree.checkPath file)).Ends w u w := ends_need.mpr ⟨hpath, rfl⟩
      have hget : (get : Program World).Ends w w w := ends_get.mpr ⟨rfl, rfl⟩
      refine ⟨.file fault, stops_bind.mpr (.inr ⟨u, w, hneed, ?_⟩)⟩
      refine stops_bind.mpr (.inr ⟨w, w, hget, ?_⟩)
      rw [hwrite]
      rfl

theorem run_putFile_of_takes (h : w.files.Takes file) (bytes : List UInt8) :
    ∃ w', (putFile file bytes).Ends w () w' ∧ w'.files.Takes file ∧
      w'.files.bytes (FilePath.ofText file) = .ok bytes := by
  obtain ⟨w', hends⟩ := (exists_ends_putFile bytes).mpr h
  obtain ⟨hpath, files, hfiles, rfl⟩ := ends_putFile.mp hends
  exact ⟨_, hends, ⟨hpath, FileTree.leadsToFile_write hfiles⟩, FileTree.bytes_write hfiles⟩

theorem Result.stops_write_of_not_takes (h : ¬w.files.Takes file) (r : Result) :
    ∃ fault, (r.write file).Stops w (.escaped fault) w := by
  cases r with
  | labels text =>
    obtain ⟨fault, hstops⟩ := stops_putFile h []
    exact ⟨fault, stops_bind_of_stops hstops⟩
  | image content => exact stops_putFile h content

/-- A file that can be written ends up with the bytes of the result, or empty where the result has
none, and that stops the run. -/
theorem Result.run_write_of_takes (h : w.files.Takes file) (r : Result) :
    ∃ w', w'.files.bytes (FilePath.ofText file) = .ok r.bytesLeft ∧
      (r.bytes?.isSome = true → (r.write file).Ends w () w') ∧
      (r.bytes?.isSome = false → ∃ fault, (r.write file).Stops w (.escaped fault) w') := by
  cases r with
  | image content =>
    obtain ⟨w', hends, -, hbytes⟩ := run_putFile_of_takes h content
    exact ⟨w', hbytes, fun _ => hends, nofun⟩
  | labels text =>
    obtain ⟨w₁, hopen, htakes, hempty⟩ := run_putFile_of_takes h []
    simp only [bytesLeft, bytes?, write, Option.isSome_map]
    cases hs : Text.string? text with
    | some s =>
      obtain ⟨w₂, hput, -, hbytes⟩ := run_putFile_of_takes htakes (Text.Utf8.encode s)
      have hencoded : text.encoded = .ok (Text.Utf8.encode s) :=
        Text.encoded_eq_ok.mpr ⟨s, hs, rfl⟩
      have hneed : (need (text.encoded.mapError .unencodable)).Ends w₁ (Text.Utf8.encode s) w₁ :=
        ends_need.mpr ⟨mapError_eq_ok.mpr hencoded, rfl⟩
      exact ⟨w₂, hbytes,
        fun _ => ends_bind.mpr ⟨(), _, hopen, ends_bind.mpr ⟨_, _, hneed, hput⟩⟩, nofun⟩
    | none =>
      refine ⟨w₁, hempty, nofun, fun _ => ?_⟩
      cases hencoded : text.encoded with
      | ok bytes =>
        obtain ⟨s, hsome, -⟩ := Text.encoded_eq_ok.mp hencoded
        cases hs.symm.trans hsome
      | error fault =>
        refine ⟨.unencodable fault, stops_bind.mpr (.inr ⟨(), _, hopen, stops_bind_of_stops ?_⟩)⟩
        rw [hencoded]
        rfl

end Written

end CommandLine
end LabelPress
