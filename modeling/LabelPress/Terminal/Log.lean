import LabelPress.Terminal.Markup

/-!
# Log lines

A log entry has its level before its first line, and the lines behind it stand in the column in
which the first one starts. They are filled up to the last column.
-/

namespace LabelPress.Terminal

inductive LogLevel where
  | debug
  | info
  deriving DecidableEq

def LogLevel.word : LogLevel → Text
  | debug => "DEBUG"
  | info => "INFO"

def logIndent : Nat := 29

def logged [Host] (level : LogLevel) (message : Text) : Text :=
  let width := Host.columns - logIndent
  match wrap width message with
  | [] => []
  | first :: others =>
    let first := level.word ++ " " ++ Text.dropTrailing ' ' first
    let others := others.map fun line =>
      Text.spaces logIndent ++ Text.padded width line
    (first :: others).flatMap fun line => line ++ "\n"

end LabelPress.Terminal
