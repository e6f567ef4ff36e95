import LabelPress.CommandLine.Usage
import LabelPress.Files.Tree
import LabelPress.Journal
import LabelPress.Preview.Request
import LabelPress.Terminal.Log
import LabelPress.Terminal.Markup

/-!
# Runs of the program

A run reads and writes files, prints, and sends requests. It comes to its end, or ends before with
an exit code or with a fault that nothing catches.
-/

namespace LabelPress.CommandLine

/-- What a run can change. -/
structure World where
  files : FileTree
  out : Text := ""
  err : Text := ""
  requests : List Preview.Request := []

inductive Stop where
  | exit (code : Nat)
  | escaped (fault : Fault)
  deriving DecidableEq

abbrev Program := ExceptT Stop (StateM World)

namespace Program

variable [Host]

def escape (fault : Fault) : Program α := throw (.escaped fault)

def need (x : Except Fault α) : Program α :=
  match x with
  | .ok a => return a
  | .error fault => escape fault

/-- Prints to the standard output, where `fault` tells of a text that has no bytes. -/
def printOr (fault : Text.EncodingFault → Fault) (text : Text) : Program Unit := do
  need ((Text.Encoding.utf8.check text).mapError fault)
  modify fun w => { w with out := w.out ++ text }

def print (text : Text) : Program Unit := printOr .unencodable text

def escapeHalves (text : Text) : Text :=
  text.flatMap fun
    | .char c => [c]
    | .half h => Text.ofChars (Text.codeEscape h.code)

def complain (text : Text) : Program Unit :=
  modify fun w => { w with err := w.err ++ escapeHalves text }

def shown (text : Text) : Program Text := need (Terminal.shownMarkup text)

def printStyled (text : Text) : Program Unit := do
  printOr .unprintable (← shown text)

def failWith (text : Text) : Program α := do
  complain (← shown text)
  throw (.exit 1)

def refuse (u : Usage) (fault : UsageFault) : Program α := do
  complain (u.refusal fault)
  throw (.exit 2)

def needWords (u : Usage) (x : Except UsageFault α) : Program α :=
  match x with
  | .ok a => return a
  | .error fault => refuse u fault

def answer (text : Text) : Program α := do
  print text
  throw (.exit 0)

def needOrder (u : Usage) (x : Except UsageFault (Option α)) : Program α := do
  match ← needWords u x with
  | some a => return a
  | none => answer u.line

def journaled (verbose : Bool) (x : Journaled α) : Program (Except Fault α) := do
  if verbose then
    complain (x.notes.flatMap fun n => Terminal.logged .debug n.message)
  return x.outcome

def needJournaled (verbose : Bool) (x : Journaled α) : Program α := do
  need (← journaled verbose x)

end Program

end LabelPress.CommandLine
