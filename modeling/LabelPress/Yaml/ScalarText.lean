import LabelPress.Text.Quoted
import LabelPress.Yaml.Cursor
import LabelPress.Yaml.Tag

/-!
# Texts as scalars

A text is written plainly where it reads back as the same text, between single quotes where only its
quotes need care, and between double quotes with escapes elsewhere. Long lines are broken: at single
spaces, or between double quotes at any place with a backslash.
-/

namespace LabelPress.Yaml

def lineWidth : Nat := 80

def leadIndicators : List Char := "#,[]\x7b\x7d&*!|>'\"%@\x60".toList

def badStart : List Char → Bool
  | [] => true
  | c :: rest =>
    leadIndicators.contains c ||
      ((c == '?' || c == ':' || c == '-') && isBlankOrEnd (rest.headD endMark)) ||
      ['-', '-', '-'].isPrefixOf (c :: rest) || ['.', '.', '.'].isPrefixOf (c :: rest)

def badPair (c d : Char) : Bool :=
  (c == ':' && isBlankOrEnd d) || (isBlankOrEnd c && d == '#')

/-- Whether some two characters in a row of `cs` are as `bad` says; the end counts as one. -/
def anyPair (bad : Char → Char → Bool) : List Char → Bool
  | [] => false
  | c :: rest => bad c (rest.headD endMark) || anyPair bad rest

def isSpecial (c : Char) : Bool := !(c == '\n' || (' ' ≤ c && c ≤ '~'))

def isSpacing (c : Char) : Bool := c == ' ' || c == '\n'

inductive Style where
  | plain
  | single
  | double
  deriving DecidableEq

/-- Whether a text can stand between single quotes: no space next to a line feed, and no special
character. -/
def allowsSingle (cs : List Char) : Bool :=
  !(cs.any isSpecial ||
    anyPair (fun c d => (c == ' ' && d == '\n') || (c == '\n' && d == ' ')) cs)

def allowsPlain (cs : List Char) : Bool :=
  allowsSingle cs && !cs.contains '\n' && !isSpacing (cs.headD ' ') &&
    !isSpacing (cs.getLast?.getD ' ') && !badStart cs && !anyPair badPair cs

def styleOf (cs : List Char) : Style :=
  if Tag.ofChars cs = .text && allowsPlain cs then .plain
  else if allowsSingle cs then .single
  else .double

def newLine (indent : Nat) : List Char := '\n' :: List.replicate indent ' '

/-- Whether two characters belong to one run: of spaces, of line feeds, or of others. -/
def sameRun (c d : Char) : Bool :=
  (isSpacing c || isSpacing d) == false || c == d

/-- The text of a run and the column after it; `inner` tells whether a line may be broken here. -/
def runText (indent column : Nat) (inner : Bool) (run : List Char) : List Char × Nat :=
  match run with
  | [' '] =>
    if inner && lineWidth < column then (newLine indent, indent) else ([' '], column + 1)
  | '\n' :: rest => ('\n' :: List.replicate rest.length '\n' ++ newLine indent, indent)
  | run => (run, column + run.length)

def runsText (indent : Nat) : Nat → Bool → List (List Char) → List Char
  | _, _, [] => []
  | column, first, run :: rest =>
    let (written, column) := runText indent column (!first && !rest.isEmpty) run
    written ++ runsText indent column false rest

def plainText (indent column : Nat) (cs : List Char) : List Char :=
  runsText indent column true (cs.splitBy sameRun)

def doubled (cs : List Char) : List Char := cs.flatMap fun c => if c == '\'' then [c, c] else [c]

def singleText (indent column : Nat) (cs : List Char) : List Char :=
  '\'' :: runsText indent (column + 1) true ((doubled cs).splitBy sameRun) ++ ['\'']

def escapeLetters : List (Char × Char) := [
  ('\x00', '0'), ('\x07', 'a'), ('\x08', 'b'), ('\t', 't'), ('\n', 'n'), ('\x0b', 'v'),
  ('\x0c', 'f'), ('\r', 'r'), ('\x1b', 'e'), ('"', '"'), ('\\', '\\'), ('\x85', 'N'),
  ('\xa0', '_'), ('\u2028', 'L'), ('\u2029', 'P')]

def codeText (digits n : Nat) : List Char := (Text.hexDigits digits n).map Char.toUpper

def plainChar? (c : CodePoint) : Option Char :=
  c.char?.filter fun c => ' ' ≤ c && c ≤ '~' && c != '"' && c != '\\'

def escape (c : CodePoint) : List Char :=
  match escapeLetters.find? fun entry => entry.1 == c with
  | some (_, letter) => ['\\', letter]
  | none =>
    let n := c.toNat
    if n ≤ 0xFF then '\\' :: 'x' :: codeText 2 n
    else if n ≤ 0xFFFF then '\\' :: 'u' :: codeText 4 n
    else '\\' :: 'U' :: codeText 8 n

/-- What is written between double quotes for a text from some place on. `column` is that before the
characters `held`, which are not written yet. -/
def doubleFrom (indent : Nat) : Nat → Bool → List Char → Text → List Char
  | _, _, held, [] => held
  | column, first, held, c :: rest =>
    let inner := !first && !rest.isEmpty
    match plainChar? c with
    | none =>
      let lead := held ++ escape c
      let column := column + lead.length
      if inner && lineWidth + 1 < column then
        let skip := if rest.head? = some (.char ' ') then ['\\'] else []
        lead ++ '\\' :: newLine indent ++ skip ++
          doubleFrom indent (indent + skip.length) false [] rest
      else lead ++ doubleFrom indent column false [] rest
    | some c =>
      if inner && (c == ' ' || held.isEmpty) && lineWidth < column + held.length then
        let skip := if c == ' ' then ['\\'] else []
        held ++ '\\' :: newLine indent ++ skip ++
          doubleFrom indent (indent + skip.length) false [c] rest
      else doubleFrom indent column false (held ++ [c]) rest

def doubleText (indent column : Nat) (t : Text) : List Char :=
  '"' :: doubleFrom indent (column + 1) true [] t ++ ['"']

/-- The scalar of a text that starts at `column`; further lines of it are indented by `indent`. A
half can only be written as an escape. -/
def scalarText (indent column : Nat) (t : Text) : List Char :=
  match Text.chars? t with
  | none => doubleText indent column t
  | some cs => match styleOf cs with
    | .plain => plainText indent column cs
    | .single => singleText indent column cs
    | .double => doubleText indent column t

end LabelPress.Yaml
