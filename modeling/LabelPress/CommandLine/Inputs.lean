import LabelPress.CommandLine.Program
import LabelPress.Files.Design
import LabelPress.Settings.Basic

/-!
# The inputs of a run

The design comes from a file. Bindings come from a file too, one set or several, and from options
that have precedence in every set.
-/

namespace LabelPress.CommandLine

variable [Host]

open Program

def failWithError (message : Text) : Program α := failWith ("[red]Error:[/red] " ++ message)

def isDesignFault : Fault → Bool
  | .design _ | .geometry _ _ => true
  | _ => false

def designOf (files : FileTree) (settings : Settings) (file : Text) : Journaled Design := do
  let page ← settings.defaultPage
  Design.load files (FilePath.ofText file) (some page)

def loadDesign (verbose : Bool) (settings : Settings) (file : Text) : Program Design := do
  match ← journaled verbose (designOf (← get).files settings file) with
  | .ok design => return design
  | .error fault =>
    if isDesignFault fault then failWithError fault.message else escape fault

/-- The key and value that a word binds: what stands before its first equals sign, and what stands
behind it. -/
def binding (word : Text) : Except UsageFault (Text × Text) :=
  match splitValue word with
  | (key, some value) => if key.isEmpty then .error (.binding word) else .ok (key, value)
  | (_, none) => .error (.binding word)

def bindings (words : List Text) : Except UsageFault (List (Text × Text)) :=
  words.mapM binding

def overlaid (overrides : List (Text × Text)) (set : Entries) : Entries :=
  overrides.foldl (fun set (key, value) => set.insert (.text key) (.text value)) set

def bindingsFormat (file : Text) : DocumentFormat :=
  if file.endsWith ".json" then .json else .yaml

def setsOf? (v : Value) : Option (List Entries) :=
  match v.head with
  | .mapping entries => some [entries]
  | .list items => items.mapM fun item => match item.head with
    | .mapping entries => some entries
    | _ => none
  | _ => none

def readSets (file : Text) : Program (List Entries) := do
  let unreadable (reason : Text) : Program Unit :=
    failWithError ("Cannot read bindings " ++ file ++ ": " ++ reason)
  need (FileTree.checkPath file)
  let bytes ← match (← get).files.bytes (FilePath.ofText file) with
    | .ok bytes => pure bytes
    | .error fault => do
      unreadable fault.message
      pure []
  let text ← need (FileTree.textOf bytes)
  let v ← match (bindingsFormat file).parse text with
    | .ok v => pure v
    | .error (.content fault) => escape fault
    | .error (.broken fault) => do
      unreadable fault.message
      pure .null
  match setsOf? v with
  | some sets => return sets
  | none => failWithError (file ++ " must hold a mapping or a list of mappings")

/-- The sets of bindings of a run: those of the file, or a single empty one where the file has none
or there is none, under those of the options. -/
def bindingSets (u : Usage) (words : List Text) (file : Option Text) :
    Program (List Entries) := do
  let overrides ← needWords u (bindings words)
  let sets ← match file with
    | some file => readSets file
    | none => pure []
  let sets := if sets.isEmpty then [[]] else sets
  return sets.map (overlaid overrides)

end LabelPress.CommandLine
