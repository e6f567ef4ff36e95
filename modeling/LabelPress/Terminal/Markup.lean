import LabelPress.Host
import LabelPress.Terminal.Action
import LabelPress.Terminal.Emoji
import LabelPress.Terminal.Style
import LabelPress.Terminal.Wrapping

/-!
# Text with styles

Printed text may hold styles in square brackets; they do not print, a closing one must have been
opened, and a backslash before one lets it print. Names of emoji in it stand for the emoji.
-/

namespace LabelPress.Terminal

/-- A part of text with styles: text that prints as it is, text in which marks before brackets do
not print, or a style and its place. -/
inductive MarkupPart where
  | plain (t : Text)
  | marked (t : Text)
  | style (name : Text) (parameters : Option Text) (position : Nat)

def startsStyle (c : CodePoint) : Bool :=
  c.char?.any fun c => ('a' ≤ c && c ≤ 'z') || c == '#' || c == '/' || c == '@'

/-- The text up to the next closing bracket, and that after it. There must be no opening bracket in
between. -/
def upToBracket : Text → Option (Text × Text)
  | [] => none
  | c :: rest =>
    if c == ']' then some ([], rest)
    else if c == '[' then none
    else (upToBracket rest).map fun (inside, after) => (c :: inside, after)

def styleAt? : Text → Option (Text × Text)
  | .char '[' :: c :: rest =>
    if startsStyle c then (upToBracket rest).map fun (inside, after) => (c :: inside, after)
    else none
  | _ => none

def styleOfText (t : Text) (position : Nat) : MarkupPart :=
  let name := t.takeWhile (· != .char '=')
  match t.dropWhile (· != .char '=') with
  | [] => .style name none position
  | _ :: parameters => .style name (some parameters) position

/-- The parts of a text that starts at `position`; `fuel` bounds their number. -/
def markupParts : Nat → Nat → Text → List MarkupPart
  | 0, _, t => [.marked t]
  | _, _, [] => []
  | fuel + 1, position, c :: rest =>
    let slashes := (c :: rest).takeWhile (· == .char '\\')
    let after := (c :: rest).drop slashes.length
    match styleAt? after with
    | none =>
      let passed := if slashes.isEmpty then [c] else slashes
      .marked passed ::
        markupParts fuel (position + passed.length) ((c :: rest).drop passed.length)
    | some (inside, behind) =>
      let kept := slashes.length / 2
      let lead := if kept = 0 then [] else [MarkupPart.plain (List.replicate kept (.char '\\'))]
      let part :=
        if slashes.length % 2 = 1 then .plain ("[" ++ inside ++ "]")
        else styleOfText inside (position + kept * 2)
      lead ++ part :: markupParts fuel (position + slashes.length + inside.length + 2) behind

structure OpenStyle where
  name : Text
  parameters : Option Text

def closeStyle (name : Text) : List OpenStyle → Option (OpenStyle × List OpenStyle)
  | [] => none
  | style :: opened =>
    if style.name = name then some (style, opened)
    else (closeStyle name opened).map fun (found, others) => (found, style :: others)

def OpenStyle.check (s : OpenStyle) : Except MarkupFault Unit :=
  if s.name.head? = some (.char '@') then checkAction (s.parameters.getD []) else .ok ()

/-- The text without the marks before brackets that start no style. -/
def dropMarks : Text → Text
  | [] => []
  | .char '\\' :: .char '[' :: rest => '[' :: dropMarks rest
  | c :: rest => c :: dropMarks rest

def joinMarked : List MarkupPart → List MarkupPart
  | [] => []
  | .marked s :: rest => match joinMarked rest with
    | .marked t :: more => .marked (s ++ t) :: more
    | more => .marked s :: more
  | part :: rest => part :: joinMarked rest

def printedPlain (t : Text) : Text := withEmoji t.length (dropMarks t)

def printedParts : List OpenStyle → List MarkupPart → Except Fault Text
  | _, [] => .ok []
  | opened, .plain t :: rest | opened, .marked t :: rest => do
    return printedPlain t ++ (← printedParts opened rest)
  | opened, .style name parameters position :: rest => do
    match name with
    | .char '/' :: closing =>
      if (Text.strip closing).isEmpty then
        match opened with
        | [] => throw (.markup (.nothingToClose position))
        | style :: opened =>
          style.check.mapError .markup
          printedParts opened rest
      else match closeStyle (← styleName closing) opened with
        | some (style, opened) =>
          style.check.mapError .markup
          printedParts opened rest
        | none =>
          let parameters := (parameters.map fun ps => .char '=' :: ps).getD []
          throw (.markup (.unmatched ("[" ++ name ++ parameters ++ "]") position))
    | name => printedParts (⟨← styleName name, parameters⟩ :: opened) rest

def shownMarkup [Host] (t : Text) : Except Fault Text := do
  let parts := joinMarked (markupParts (t.length + 1) 0 t)
  let lines := wrap Host.columns (← printedParts [] parts)
  return lines.flatMap (· ++ "\n")

end LabelPress.Terminal
