import LabelPress.CommandLine.Options

/-!
# Usage

What the program tells of its commands: their usage behind a refusal, and the help page.
-/

namespace LabelPress.CommandLine

def programName : Text := "cli"

def versionLine : Text := programName ++ ", version 0.1.0\n"

structure Usage where
  /-- The words that call the command. -/
  words : List Text
  /-- What may follow them. -/
  operands : List Text

namespace Usage

def program : Usage := ⟨[programName], ["[OPTIONS]", "COMMAND", "[ARGS]..."]⟩

def version : Usage := ⟨[programName, "version"], ["[OPTIONS]"]⟩

def compile : Usage := ⟨[programName, "compile"], ["[OPTIONS]", "FILE"]⟩

def preview : Usage := ⟨[programName, "preview"], ["[OPTIONS]", "FILE"]⟩

def fields : Usage := ⟨[programName, "fields"], ["[OPTIONS]"]⟩

def presets : Usage := ⟨[programName, "presets"], ["[OPTIONS]"]⟩

def line (u : Usage) : Text := "Usage: " ++ Text.join " " (u.words ++ u.operands) ++ "\n"

def refusal (u : Usage) (fault : UsageFault) : Text :=
  let lead : Text :=
    if fault.isBare then []
    else u.line ++ "Try '" ++ Text.join " " u.words ++ " --help' for help.\n\n"
  lead ++ "Error: " ++ fault.message ++ "\n"

end Usage

def helpLines : List String := [
  "",
  "  Compile vector label designs into ZPL for thermal label printers.",
  "",
  "Options:",
  "  --version      Show the version and exit.",
  "  --config FILE  YAML file overriding the packaged defaults",
  "  -v, --verbose  Enable debug logging",
  "  --help         Show this message and exit.",
  "",
  "Commands:",
  "  compile  Compile a design file to ZPL.",
  "  fields   List the built-in dynamic fields.",
  "  presets  List the label size presets with their size in dots.",
  "  preview  Render FILE through the Labelary API and save the result.",
  "  version  Show detailed version information."]

def helpPage : Text := Usage.program.line ++ String.join (helpLines.map (· ++ "\n"))

end LabelPress.CommandLine
