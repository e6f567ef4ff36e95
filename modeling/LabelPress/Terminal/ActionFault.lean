import LabelPress.Text.Encoding

/-!
# Faults of actions

Why the arguments of an action cannot be read. Most faults break the rules of what can be said; the
others say what comes of arguments that keep them.
-/

namespace LabelPress

inductive ActionFault where
  | unclosed (opening : Char)
  | unopened (closing : Char)
  | mismatch (opening closing : Char)
  | unterminated
  /-- A text between three quotes each that does not end. -/
  | unterminatedLong
  | zeros
  | numeral (kind : String)
  | digit (c : Char) (kind : String)
  | character (c : Char)
  /-- Bytes that are written with other characters than ASCII. -/
  | byteCharacter
  /-- Texts and bytes one behind the other. -/
  | mixedTexts
  | comma
  /-- A condition without what holds otherwise. -/
  | otherwise
  /-- A statement that is a call by now, without its parentheses. -/
  | statement (word : List Char)
  | assignment
  /-- An equals sign behind a value that is not a name. -/
  | assigned (kind : String)
  /-- The sign that names a value, behind a value that is not a name. -/
  | named (kind : String)
  /-- A value that is not a name, with an equals sign behind it, among the arguments of a call. -/
  | argument
  /-- A word that is a value, where an argument of a call has its name. -/
  | reserved (word : List Char)
  /-- An argument without a name behind one with a name, or behind named ones from a mapping. -/
  | unnamed (merged : Bool)
  /-- Arguments from a list behind named ones from a mapping. -/
  | unpacked
  /-- A star with no value behind it. -/
  | star
  /-- A value with one or two stars before it, alone between parentheses. -/
  | starred (double : Bool)
  /-- A key with a star behind its colon. -/
  | starredEntry
  /-- A key with nothing behind its colon. -/
  | entry
  /-- A key without a colon. -/
  | colon
  | unexpected
  /-- Arguments that are no literal values. -/
  | computed
  /-- A mapping whose entries are those of another one. -/
  | spread
  /-- A value of a type that cannot be a key. -/
  | unhashable (typeName : String)
  /-- Arguments that hold halves of characters. -/
  | unencodable (fault : Text.EncodingFault)
  deriving DecidableEq

namespace ActionFault

def meant (signs : String) : String := "Maybe you meant " ++ signs ++ " instead of '='?"

def message : ActionFault → Text
  | unclosed opening => "'" ++ opening.toString ++ "' was never closed"
  | unopened closing => "unmatched '" ++ closing.toString ++ "'"
  | mismatch opening closing => "closing parenthesis '" ++ closing.toString ++
      "' does not match opening parenthesis '" ++ opening.toString ++ "'"
  | unterminated => "unterminated string literal (detected at line 1)"
  | unterminatedLong => "unterminated triple-quoted string literal (detected at line 1)"
  | zeros => "leading zeros in decimal integer literals are not permitted; " ++
      "use an 0o prefix for octal integers"
  | numeral kind => "invalid " ++ kind ++ " literal"
  | digit c kind => "invalid digit '" ++ c.toString ++ "' in " ++ kind ++ " literal"
  | character c =>
    let code := "U+" ++ String.ofList ((Text.hexDigits 4 c.toNat).map Char.toUpper)
    if Text.isPrintable c then "invalid character '" ++ c.toString ++ "' (" ++ code ++ ")"
    else "invalid non-printable character " ++ code
  | byteCharacter => "bytes can only contain ASCII literal characters"
  | mixedTexts => "cannot mix bytes and nonbytes literals"
  | comma => "invalid syntax. Perhaps you forgot a comma?"
  | otherwise => "expected 'else' after 'if' expression"
  | statement word => "Missing parentheses in call to '" ++ String.ofList word ++
      "'. Did you mean " ++ String.ofList word ++ "(...)?"
  | assignment => "invalid syntax. " ++ meant "'==' or ':='"
  | assigned kind => "cannot assign to " ++ kind ++ " here. " ++ meant "'=='"
  | named kind => "cannot use assignment expressions with " ++ kind
  | argument => "expression cannot contain assignment, perhaps you meant \"==\"?"
  | reserved word => "cannot assign to " ++ String.ofList word
  | unnamed merged => "positional argument follows keyword argument" ++
      if merged then " unpacking" else ""
  | unpacked => "iterable argument unpacking follows keyword argument unpacking"
  | star => "Invalid star expression"
  | starred double => "cannot use " ++ (if double then "double " else "") ++
      "starred expression here"
  | starredEntry => "cannot use a starred expression in a dictionary value"
  | entry => "expression expected after dictionary key and ':'"
  | colon => "':' expected after dictionary key"
  | unexpected => "invalid syntax"
  | computed => "malformed node or string on line 1"
  | spread => "malformed node or string: None"
  | unhashable typeName => "unhashable type: '" ++ typeName ++ "'"
  | unencodable fault => fault.message

def isSyntax : ActionFault → Bool
  | computed | spread | unhashable _ | unencodable _ => false
  | _ => true

end ActionFault
end LabelPress
