import LabelPress.CommandLine.Inputs
import LabelPress.Numeral.Integer
import LabelPress.Terminal.Table

/-!
# The commands

One command compiles a design, one asks for a preview of it, and two list what can be used.
-/

namespace LabelPress.CommandLine

variable [Host]

open Program

def lastOf (f : α → Option β) (meanings : List α) : Option β := (meanings.filterMap f).getLast?

def helpName : String := "--help"

def onlyArgument (name : String) : List Text → Except UsageFault Text
  | [] => .error (.missingArgument name)
  | word :: _ => .ok word

def noMore (count : Nat) (words : List Text) : Except UsageFault Unit :=
  let extra := words.drop count
  if extra.isEmpty then .ok () else .error (.extraArguments extra)

def putFile (file : Text) (bytes : List UInt8) : Program Unit := do
  need (FileTree.checkPath file)
  match (← get).files.write (FilePath.ofText file) bytes with
  | .ok files => modify fun w => { w with files }
  | .error fault => escape (.file fault)

/-- Writes a text to a file, which is left empty if the text has no bytes. -/
def writeFile (file text : Text) : Program Unit := do
  putFile file []
  putFile file (← need (text.encoded.mapError .unencodable))

inductive CompileOption where
  | help
  | bind (word : Text)
  | bindings (file : Text)
  | copies (word : Text)
  | catalog (use : Bool)
  | output (file : Text)
  deriving DecidableEq

def compileOptions : List (OptionSpec CompileOption) := [
  ⟨["--bind", "-b"], .value .bind⟩,
  ⟨["--bindings"], .value .bindings⟩,
  ⟨["--copies"], .value .copies⟩,
  ⟨["--catalog"], .flag (.catalog true)⟩,
  ⟨["--no-catalog"], .flag (.catalog false)⟩,
  ⟨["--output", "-o"], .value .output⟩,
  ⟨[helpName], .flag .help⟩]

structure CompileRequest where
  file : Text
  binds : List Text
  bindings : Option Text
  copies : { n : Nat // 0 < n }
  catalog : Bool
  output : Option Text

def oneCopy : { n : Nat // 0 < n } := ⟨1, Nat.zero_lt_one⟩

def copiesOf (word : Text) : Except UsageFault { n : Nat // 0 < n } :=
  match Numeral.integer? 10 word with
  | .ok (some n) => match positive? n with
    | some k => .ok k
    | none => .error (.outOfRange "--copies" n 1)
  | _ => .error (.notInteger "--copies" word)

def CompileRequest.ofWords (words : List Text) : Except UsageFault (Option CompileRequest) := do
  let (meanings, words) ← readWords compileOptions true words
  if meanings.contains .help then return none
  let copies ← match lastOf (fun | .copies w => some w | _ => none) meanings with
    | some word => copiesOf word
    | none => pure oneCopy
  let file ← onlyArgument "FILE" words
  noMore 1 words
  return some {
    file
    copies
    binds := meanings.filterMap fun | .bind w => some w | _ => none
    bindings := lastOf (fun | .bindings f => some f | _ => none) meanings
    catalog := (lastOf (fun | .catalog b => some b | _ => none) meanings).getD false
    output := lastOf (fun | .output f => some f | _ => none) meanings }

def compile (verbose : Bool) (settings : Settings) (r : CompileRequest) : Program Unit := do
  let design ← loadDesign verbose settings r.file
  let sets ← bindingSets .compile r.binds r.bindings
  let target := settings.target (if r.catalog then some Catalog.builtin else none) r.copies
  let labels ← needJournaled verbose (target.compileBatch sets design)
  match r.output.filter fun file => !file.isEmpty with
  | none => print (labels ++ "\n")
  | some file =>
    writeFile file (labels ++ "\n")
    let counts := "(" ++ toString sets.length ++ " label(s), " ++
      toString design.elements.length ++ " element(s))"
    complain (← shown ("[green]Written:[/green] " ++ file ++ " [dim]" ++ counts ++ "[/dim]"))

inductive PreviewOption where
  | help
  | bind (word : Text)
  | bindings (file : Text)
  | output (file : Text)
  | pdf
  deriving DecidableEq

def previewOptions : List (OptionSpec PreviewOption) := [
  ⟨["--bind", "-b"], .value .bind⟩,
  ⟨["--bindings"], .value .bindings⟩,
  ⟨["--output", "-o"], .value .output⟩,
  ⟨["--pdf"], .flag .pdf⟩,
  ⟨[helpName], .flag .help⟩]

structure PreviewOrder where
  file : Text
  binds : List Text
  bindings : Option Text
  output : Text
  pdf : Bool

def PreviewOrder.ofWords (words : List Text) : Except UsageFault (Option PreviewOrder) := do
  let (meanings, words) ← readWords previewOptions true words
  if meanings.contains .help then return none
  let file ← onlyArgument "FILE" words
  let output ← match lastOf (fun | .output f => some f | _ => none) meanings with
    | some file => pure file
    | none => throw (.missingOption ["--output", "-o"])
  noMore 1 words
  return some {
    file
    output
    binds := meanings.filterMap fun | .bind w => some w | _ => none
    bindings := lastOf (fun | .bindings f => some f | _ => none) meanings
    pdf := meanings.contains .pdf }

def PreviewOrder.accept (o : PreviewOrder) : Text :=
  if o.pdf then "application/pdf" else "image/png"

abbrev Service := Preview.Request → Preview.Reply

def logAnswer (verbose : Bool) (request : Preview.Request) (reply : Preview.Reply) :
    Program Unit := do
  match reply with
  | .answered answer =>
    if verbose && request.address.isAbsolute then
      complain (Terminal.logged .info (request.logLine answer.status))
  | .unanswered _ | .failed _ => return

def preview (service : Service) (verbose : Bool) (settings : Settings) (o : PreviewOrder) :
    Program Unit := do
  let design ← loadDesign verbose settings o.file
  let sets ← bindingSets .preview o.binds o.bindings
  let target := settings.target none oneCopy
  let label ← needJournaled verbose (target.compile (sets.headD []) design)
  let request ← needJournaled verbose
    (Preview.pageRequest settings.previewUrl label.text design.page 0 o.accept)
  modify fun w => { w with requests := w.requests ++ [request] }
  let reply := service request
  logAnswer verbose request reply
  match request.image reply with
  | .error (.preview fault) => failWith ("[red]Preview failed:[/red] " ++ fault.message)
  | .error fault => escape fault
  | .ok image =>
    putFile o.output image
    printStyled ("[green]Preview written to[/green] " ++ o.output)

def fieldsTable : Terminal.Table where
  title := "Dynamic fields"
  header := ["Key", "Label", "Category", "Format", "Prefix"]
  rows := Catalog.builtin.specs.map fun s =>
    [s.key, s.label, s.category.word, s.pattern.getD "", s.lead]

def presetRow (dpi : Nat) (size : LabelSize) : Except Fault (List Text) := do
  let page ← size.page (.number (.int dpi))
  return [size.name,
    toString size.width ++ " x " ++ toString size.height ++ " " ++ size.unit.name,
    toString page.width ++ " x " ++ toString page.height]

def presetsTable (dpi : Nat) : Except Fault Terminal.Table := do
  return {
    title := "Label sizes at " ++ toString dpi ++ " dpi"
    header := ["Name", "Size", "Dots"]
    rows := ← LabelSize.presets.mapM (presetRow dpi) }

def noWords (words : List Text) : Except UsageFault (Option Unit) := do
  let (meanings, words) ← readWords [⟨[helpName], .flag ()⟩] true words
  if !meanings.isEmpty then return none
  return some (← noMore 0 words)

end LabelPress.CommandLine
