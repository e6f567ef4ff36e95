import LabelPress.CommandLine.Commands

/-!
# Running the program

The words of a run are options of the program, the name of a command, and the words of that. The
settings are read before the words of the command are looked at.
-/

namespace LabelPress.CommandLine

variable [Host]

open Program

inductive ProgramOption where
  | config (file : Text)
  | verbose
  | version
  | help
  deriving DecidableEq

def programOptions : List (OptionSpec ProgramOption) := [
  ⟨["--config"], .value .config⟩,
  ⟨["--verbose", "-v"], .flag .verbose⟩,
  ⟨["--version"], .flag .version⟩,
  ⟨[helpName], .flag .help⟩]

inductive CommandName where
  | compile
  | preview
  | fields
  | presets
  | version
  deriving DecidableEq

namespace CommandName

def words : List (String × CommandName) := [
  ("compile", compile), ("preview", preview), ("fields", fields), ("presets", presets),
  ("version", version)]

def ofWord? (word : Text) : Option CommandName :=
  (words.find? fun (name, _) => word == name).map (·.2)

def ofWord (word : Text) : Except UsageFault CommandName :=
  match ofWord? word with
  | some name => .ok name
  | none => .error (.unknownCommand word (Text.closest word (words.map (·.1))))

end CommandName

def mustBeFile (option file : Text) : Program Unit := do
  need (FileTree.checkPath file)
  match (← get).files.entryAt? file with
  | some (.file _) => return
  | some .folder => refuse .program (.folder option file)
  | none => refuse .program (.noFile option file)

structure ProgramChoice where
  config : Option Text
  verbose : Bool

/-- What the options of the program say, and the words behind them. Help and the version are told at
once. -/
def ProgramChoice.ofWords (words : List Text) : Program (ProgramChoice × List Text) := do
  let (meanings, words) ← needWords .program (readWords programOptions false words)
  match meanings.find? fun m => m = .help || m = .version with
  | some .version => answer versionLine
  | some _ => answer helpPage
  | none => pure ()
  let config := lastOf (fun | .config f => some f | _ => none) meanings
  if let some file := config then mustBeFile "--config" file
  return (⟨config, meanings.contains .verbose⟩, words)

/-- The command that words start with. One that looks like an option is read as one before it is
refused. -/
def commandOf (words : List Text) : Program (CommandName × List Text) := do
  match words with
  | [] => refuse .program .missingCommand
  | word :: rest =>
    if (CommandName.ofWord? word).isNone && word.startsWith "-" then
      let _ ← ProgramChoice.ofWords words
    return (← needWords .program (CommandName.ofWord word), rest)

def loadSettings (verbose : Bool) (config : Option Text) : Program Settings := do
  match ← journaled verbose (Settings.load (← get).files config) with
  | .ok settings => return settings
  | .error (.settings fault) => failWith ("[red]Config error:[/red] " ++ fault.message)
  | .error fault => escape fault

def program (service : Service) (words : List Text) : Program Unit := do
  if words.isEmpty then
    complain helpPage
    throw (.exit 2)
  let (choice, words) ← ProgramChoice.ofWords words
  let (command, words) ← commandOf words
  let settings ← loadSettings choice.verbose choice.config
  match command with
  | .compile =>
    compile choice.verbose settings (← needOrder .compile (CompileRequest.ofWords words))
  | .preview =>
    preview service choice.verbose settings (← needOrder .preview (PreviewOrder.ofWords words))
  | .fields =>
    needOrder .fields (noWords words)
    print fieldsTable.text
  | .presets =>
    needOrder .presets (noWords words)
    print (← need (presetsTable settings.dpi)).text
  | .version =>
    needOrder .version (noWords words)
    print versionLine

structure Ending where
  world : World
  exitCode : Nat
  escaped : Option Fault

/-- The run of the program on words, with files and a rendering service. -/
def run (service : Service) (files : FileTree) (words : List Text) : Ending :=
  match (program service words).run { files } with
  | (.ok (), world) => ⟨world, 0, none⟩
  | (.error (.exit code), world) => ⟨world, code, none⟩
  | (.error (.escaped fault), world) => ⟨world, 1, some fault⟩

end LabelPress.CommandLine
