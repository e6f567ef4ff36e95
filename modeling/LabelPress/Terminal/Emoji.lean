import LabelPress.Terminal.EmojiTable
import LabelPress.Text.Blank
import LabelPress.Text.Case

/-!
# Emoji by name

A name between colons stands for an emoji. Behind the name the text form or the emoji form may be
asked for. A name that no emoji has prints as it is.
-/

namespace LabelPress.Terminal

def emojiAmong (name : Text) : List Text → Option Text
  | n :: emoji :: rest => if n = name then some emoji else emojiAmong name rest
  | _ => none

def emoji? (name : Text) : Option Text :=
  emojiLines.findSome? fun line => emojiAmong name ((Text.ofString line).splitOn ' ')

/-- What asks for a form of an emoji at the end of its name, and the character that gives it. -/
def emojiForms : List (Text × Char) := [("-emoji:", '\ufe0f'), ("-text:", '\ufe0e')]

structure EmojiName where
  name : Text
  form : Text
  rest : Text

def formAt? (t : Text) : Option EmojiName :=
  emojiForms.findSome? fun (ending, selector) =>
    if ending.isPrefixOf t then some ⟨[], [selector], t.drop ending.length⟩ else none

def emojiName? : Text → Option EmojiName
  | [] => none
  | c :: rest =>
    match formAt? (c :: rest) with
    | some found => some found
    | none =>
      if c == ':' then some ⟨[], [], rest⟩
      else if Text.isBlank c then none
      else (emojiName? rest).map fun found => { found with name := c :: found.name }

/-- A text with emoji in the place of their names; `fuel` bounds the number of code points. -/
def withEmoji : Nat → Text → Text
  | 0, t => t
  | _, [] => []
  | fuel + 1, c :: rest =>
    match if c == ':' then emojiName? rest else none with
    | none => c :: withEmoji fuel rest
    | some found =>
      let printed := match emoji? (Text.lower found.name) with
        | some emoji => emoji ++ found.form
        | none => (c :: rest).take (rest.length + 1 - found.rest.length)
      printed ++ withEmoji fuel found.rest

end LabelPress.Terminal
