import LabelPress.Text.Blank
import LabelPress.Text.Cells
import LabelPress.Text.Lines

/-!
# Lines that fit

A terminal shows no control codes, and tabs as spaces up to the next eighth column. Lines that are
too long are broken between words, and words that are too long within.
-/

namespace LabelPress.Terminal

def controlCodes : List Nat := [7, 8, 11, 12, 13]

def printable (t : Text) : Text := t.filter fun c => !controlCodes.contains c.toNat

def tabSize : Nat := 8

/-- A line from `column` on with tabs as spaces; `part` holds the code points behind the last tab,
the latest first. -/
def expandTabs (column : Nat) (part : Text) : Text → Text
  | [] => part.reverse
  | c :: rest =>
    if c == '\t' then
      let part := part.reverse ++ " "
      let reached := column + Text.cells part
      let blanks := (tabSize - reached % tabSize) % tabSize
      part ++ Text.spaces blanks ++ expandTabs (reached + blanks) [] rest
    else expandTabs column (c :: part) rest

/-- The words of a line with the white space behind them, that before the first included; `fuel`
bounds their number. -/
def wordsOf : Nat → Text → List Text
  | 0, _ => []
  | fuel + 1, t =>
    let lead := t.takeWhile Text.isBlank
    let rest := t.dropWhile Text.isBlank
    let word := rest.takeWhile fun c => !Text.isBlank c
    let rest := rest.dropWhile fun c => !Text.isBlank c
    if word.isEmpty then []
    else (lead ++ word ++ rest.takeWhile Text.isBlank) ::
      wordsOf fuel (rest.dropWhile Text.isBlank)

def fillLines (width : Nat) : Text → Nat → List Text → List Text
  | current, _, [] => [current]
  | current, used, word :: rest =>
    let size := Text.cells (Text.dropWhileEnd Text.isBlank word)
    if used + size ≤ width then fillLines width (current ++ word) (used + Text.cells word) rest
    else if width < size then
      let pieces := Text.chop width word
      let last := pieces.getLast?.getD []
      (if current.isEmpty then [] else [current]) ++ pieces.dropLast ++
        fillLines width last (Text.cells last) rest
    else current :: fillLines width word (Text.cells word) rest

/-- A line without so much white space at its end as stands behind the last column. -/
def cropBlanks (width : Nat) (line : Text) : Text :=
  let blanks := line.length - (Text.dropWhileEnd Text.isBlank line).length
  line.take (line.length - min blanks (line.length - width))

/-- The lines that a line is broken into. A line of white space is not. -/
def wrapLine (width : Nat) (line : Text) : List Text :=
  let line := expandTabs 0 [] line
  let words := wordsOf line.length line
  let lines := if words.isEmpty then [line] else fillLines width [] 0 words
  lines.map fun line => Text.crop width (cropBlanks width line)

def wrap (width : Nat) (t : Text) : List Text :=
  (Text.splitLines (printable t)).flatMap (wrapLine width)

end LabelPress.Terminal
