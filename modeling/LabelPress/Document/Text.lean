import LabelPress.Document.Write
import LabelPress.Json.Reader
import LabelPress.Json.Writer
import LabelPress.Yaml.Value
import LabelPress.Yaml.Writer

/-!
# Documents as texts

A document is written as JSON or as YAML.
-/

namespace LabelPress

variable [Host]

inductive DocumentFormat where
  | json
  | yaml
  deriving DecidableEq

def DocumentFormat.parse : DocumentFormat → Text → Except ReadFault Value
  | json => Json.parse
  | yaml => Yaml.parse

def DocumentFormat.invalid : DocumentFormat → SyntaxFault → Fault
  | json, fault => .design (.invalidJson fault)
  | yaml, fault => .design (.invalidYaml fault)

namespace Design

def ofText (format : DocumentFormat) (text : Text) : Journaled Design := do
  let v ← ((format.parse text).mapError (ReadFault.toFault format.invalid) : Except Fault Value)
  ofValue none v

def toJson (indent : Option Nat) (d : Design) : Except Fault String :=
  Json.render indent d.toValue

def toYaml (d : Design) : Except Fault String := Yaml.render d.toValue

def toText : DocumentFormat → Design → Except Fault String
  | .json => toJson none
  | .yaml => toYaml

def reread (format : DocumentFormat) (d : Design) : Journaled Design := do
  let text ← (d.toText format : Except Fault Text)
  ofText format text

def redocumented (d : Design) : Journaled Design := ofValue none d.toValue

end Design
end LabelPress
