import LabelPress.Terminal.Color
import LabelPress.Text.Blank

/-!
# Styles

A style is named by words: attributes, colours, and an address that the text leads to. Styles that
name the same in another order are the same style.
-/

namespace LabelPress.Terminal

def attributeNames : List Text := [
  "bold", "dim", "italic", "underline", "blink", "blink2", "reverse", "conceal", "strike",
  "underline2", "frame", "encircle", "overline"]

def shortNames : List (Text × Text) := [
  ("d", "dim"), ("b", "bold"), ("i", "italic"), ("u", "underline"), ("r", "reverse"),
  ("c", "conceal"), ("s", "strike"), ("uu", "underline2"), ("o", "overline")]

def attribute? (word : Text) : Option Text :=
  if attributeNames.contains word then some word else shortNames.lookup word

structure Style where
  /-- The attributes that it sets or clears; the latest word about one counts. -/
  attributes : List (Text × Bool) := []
  color : Option Text := none
  ground : Option Text := none
  link : Option Text := none

namespace Style

def text (s : Style) : Text :=
  let shown (name : Text) : List Text := match s.attributes.lookup name with
    | some true => [name]
    | some false => ["not", name]
    | none => []
  let behind (word : Text) (name : Option Text) : List Text :=
    (name.map fun name => [word, name]).getD []
  let all := attributeNames.flatMap shown ++ s.color.toList ++ behind "on" s.ground ++
    behind "link" s.link
  if all.isEmpty then "none" else Text.join " " all

/-- The style that words name beside what `s` does, if they name one. -/
def read (s : Style) : List Text → Except Fault (Option Style)
  | [] => .ok (some s)
  | word :: rest => do
    let word := Text.lower word
    match Text.string? word, rest with
    | some "on", [] | some "link", [] | some "not", [] => return none
    | some "on", name :: rest => match ← color? name with
      | some ground => read { s with ground } rest
      | none => return none
    | some "link", address :: rest => read { s with link := address } rest
    | some "not", name :: rest => match attribute? name with
      | some name => read { s with attributes := (name, false) :: s.attributes } rest
      | none => return none
    | _, rest => match attribute? word with
      | some name => read { s with attributes := (name, true) :: s.attributes } rest
      | none => match ← color? word with
        | some color => read { s with color } rest
        | none => return none

end Style

def wordsBetweenBlanks (t : Text) : List Text :=
  ((t.map fun c => if Text.isBlank c then .char ' ' else c).splitOn (.char ' ')).filter (!·.isEmpty)

/-- The name by which a style is known: the text of the style that it names, or itself. -/
def styleName (t : Text) : Except Fault Text := do
  match ← ({} : Style).read (wordsBetweenBlanks t) with
  | some style => return style.text
  | none => return Text.lower (Text.strip t)

end LabelPress.Terminal
