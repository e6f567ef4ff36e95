import LabelPress.CommandLine.Run

/-!
# The program

The outer layer of the command line: it fetches the files that the words of a run may name, runs the
program on them, and stores what the run has written and printed. No rendering service is reached
from here, so a preview ends with the reason why there is none.
-/

namespace LabelPress.Main

/-- The words of a run that may name files: each as a whole, behind an equals sign, and without the
two characters of a short option. -/
def fileNames (words : List String) : List String :=
  words.flatMap fun word =>
    let cs := word.toList
    [word, String.ofList ((cs.dropWhile (· != '=')).drop 1), String.ofList (cs.drop 2)]

def plain (t : Text) : String := String.ofList (t.map fun c => c.char?.getD '?')

def fetch (name : String) : IO (Option FileEntry) := do
  if let .ok bytes ← (IO.FS.readBinFile name).toBaseIO then return some (.file bytes.toList)
  if let .ok _ ← (IO.FS.realPath (name ++ "/.")).toBaseIO then return some .folder
  return none

def fetchAll (names : List String) : IO FileTree := do
  let mut entries : List (FilePath × FileEntry) := []
  for name in names do
    let path := FilePath.ofText name
    for path in path.folders ++ [path] do
      if !path.parts.isEmpty && !entries.any (·.1 == path.place) then
        if let some entry ← fetch (plain path.text) then entries := entries ++ [(path.place, entry)]
  return ⟨entries⟩

/-- Stores the files of `after` that are not in `before`. -/
def store (before after : FileTree) : IO Unit := do
  for (path, entry) in after.entries do
    match entry with
    | .file bytes =>
      if before.entries.lookup path != some entry then
        IO.FS.writeBinFile (plain path.text) ⟨bytes.toArray⟩
    | .folder => pure ()

def noService (_ : Preview.Request) : Preview.Reply := .unanswered "no rendering service"

def run (words : List String) : IO UInt32 := do
  let files ← fetchAll (fileNames words)
  let ending := @CommandLine.run .plain noService files (words.map .ofString)
  store files ending.world.files
  IO.print (plain ending.world.out)
  IO.eprint (plain ending.world.err)
  if let some fault := ending.escaped then IO.eprintln (plain fault.message)
  return UInt32.ofNat ending.exitCode

end LabelPress.Main

def main (words : List String) : IO UInt32 := LabelPress.Main.run words
