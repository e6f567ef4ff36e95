import LabelPress.Fault
import LabelPress.Terminal.NameTable

/-!
# Tokens of actions

What is said of an action is a row of names, numbers, texts between quotes, signs and brackets. Each
reader here gives the text behind what it has read.
-/

namespace LabelPress.Terminal

inductive QuotedKind where
  | plain
  | bytes
  /-- A text with values in it. -/
  | format
  deriving DecidableEq

inductive ActionToken where
  | name (cs : List Char)
  | number (imaginary : Bool)
  | text (kind : QuotedKind) (ascii : Bool)
  | sign (cs : List Char)
  | opening (c : Char)
  | closing (c : Char)
  deriving DecidableEq

def closingOf? : Char → Option Char
  | '(' => some ')'
  | '\x7b' => some '\x7d'
  | _ => none

def signs : List (List Char) := [
  "**=", "//=", "<<=", ">>=", "...", "**", "//", "<<", ">>", "<=", ">=", "==", "!=", "->", ":=",
  "+=", "-=", "*=", "/=", "%=", "&=", "|=", "^=", "@=", "+", "-", "*", "/", "%", "@", "&", "|",
  "^", "~", "<", ">", "=", ",", ":", ".", ";"].map String.toList

def startsName (c : Char) : Bool := c.isAlpha || c == '_' || Text.inRanges nameStartBounds c

def continuesName (c : Char) : Bool :=
  startsName c || (Text.digitValue? c).isSome || Text.inRanges nameMarkBounds c

/-- Whether a character is read as a part of a name, which those beyond ASCII all are. -/
def seemsName (c : Char) : Bool := c.isAlphanum || c == '_' || 0x7F < c.toNat

def intruder? : List Char → Option Char
  | [] => none
  | c :: rest => if startsName c then rest.find? (!continuesName ·) else some c

def isQuote (c : Char) : Bool := c == '"' || c == '\''

def behindQuote (quote : Char) : List Char → Option (List Char)
  | [] => none
  | '\\' :: _ :: rest => behindQuote quote rest
  | c :: rest =>
    if c == quote then some rest else if c == '\n' then none else behindQuote quote rest

def behindQuotes (quote : Char) : List Char → Option (List Char)
  | [] => none
  | '\\' :: _ :: rest => behindQuotes quote rest
  | c :: rest =>
    if [quote, quote, quote].isPrefixOf (c :: rest) then some (rest.drop 2)
    else behindQuotes quote rest

def followers : List (List Char) :=
  ["and", "else", "for", "if", "in", "is", "not", "or"].map String.toList

def endNumber (kind : String) (cs : List Char) : Except ActionFault (List Char) :=
  let runsOn := cs.head?.any fun c => c.toNat < 0x80 && continuesName c
  if followers.any (·.isPrefixOf cs) || !runsOn then .ok cs
  else .error (.numeral kind)

def behindDigits (isDigit : Char → Bool) (kind : String) :
    List Char → Except ActionFault (List Char)
  | [] => .ok []
  | ['_'] => .error (.numeral kind)
  | '_' :: c :: rest =>
    if isDigit c then behindDigits isDigit kind rest else .error (.numeral kind)
  | c :: rest => if isDigit c then behindDigits isDigit kind rest else .ok (c :: rest)

def decimalKind : String := "decimal"

def behindDecimals : List Char → Except ActionFault (List Char) :=
  behindDigits Text.isAsciiDigit decimalKind

def behindUnit : List Char → Except ActionFault (List Char)
  | c :: rest =>
    if c == 'j' || c == 'J' then endNumber "imaginary" rest else endNumber decimalKind (c :: rest)
  | [] => .ok []

def behindExponent (cs : List Char) : Except ActionFault (List Char) :=
  match cs with
  | e :: rest =>
    if e == 'e' || e == 'E' then
      match rest with
      | c :: behind =>
        let signed := c == '+' || c == '-'
        let digits := if signed then behind else rest
        if digits.head?.any Text.isAsciiDigit then do behindUnit (← behindDecimals digits)
        else if signed then .error (.numeral decimalKind)
        else endNumber decimalKind cs
      | [] => .error (.numeral decimalKind)
    else behindUnit cs
  | [] => .ok []

def behindFraction (cs : List Char) : Except ActionFault (List Char) := do
  if cs.head?.any Text.isAsciiDigit then behindExponent (← behindDecimals cs) else behindExponent cs

def bases : List (Char × Nat × String) := [
  ('x', 16, "hexadecimal"), ('X', 16, "hexadecimal"), ('o', 8, "octal"), ('O', 8, "octal"),
  ('b', 2, "binary"), ('B', 2, "binary")]

def behindBase (base : Nat) (kind : String) (cs : List Char) : Except ActionFault (List Char) := do
  let isDigit (c : Char) : Bool := (Text.hexValue? c).any (· < base)
  let digits := if cs.head? = some '_' then cs.drop 1 else cs
  if !digits.head?.any isDigit then
    match digits.head? with
    | some c => throw (if Text.isAsciiDigit c then .digit c kind else .numeral kind)
    | none => throw (.numeral kind)
  let rest ← behindDigits isDigit kind digits
  match rest.head? with
  | some c => if Text.isAsciiDigit c then throw (.digit c kind) else endNumber kind rest
  | none => return []

/-- The text behind a number. One with zeros in front must have a point, an exponent or a unit. -/
def behindNumber (cs : List Char) : Except ActionFault (List Char) := do
  match cs with
  | '0' :: c :: rest => match bases.lookup c with
    | some (base, kind) => behindBase base kind rest
    | none => decimal cs
  | cs => decimal cs
where
  decimal (cs : List Char) : Except ActionFault (List Char) := do
    let rest ← behindDecimals cs
    let digits := cs.take (cs.length - rest.length)
    match rest with
    | '.' :: rest => behindFraction rest
    | rest =>
      if digits.head? = some '0' && digits.any (fun c => c != '0' && c != '_') &&
          !rest.head?.any "eEjJ".toList.contains then
        throw .zeros
      behindExponent rest

def textKinds : List (List Char × QuotedKind) := [
  ("b".toList, .bytes), ("br".toList, .bytes), ("rb".toList, .bytes), ("f".toList, .format),
  ("fr".toList, .format), ("rf".toList, .format), ("r".toList, .plain), ("u".toList, .plain)]

def behindText (quote : Char) (cs : List Char) : Except ActionFault (List Char) :=
  if [quote, quote].isPrefixOf cs then
    (behindQuotes quote (cs.drop 2)).elim (.error .unterminatedLong) .ok
  else (behindQuote quote cs).elim (.error .unterminated) .ok

def quotedToken (kind : QuotedKind) (quote : Char) (cs : List Char) :
    Except ActionFault (ActionToken × List Char) := do
  let rest ← behindText quote cs
  return (.text kind ((cs.take (cs.length - rest.length)).all fun c => c.toNat < 0x80), rest)

def numberToken (cs : List Char) : Except ActionFault (ActionToken × List Char) := do
  let rest ← behindNumber cs
  let last := (cs.take (cs.length - rest.length)).getLast?
  return (.number (last = some 'j' || last = some 'J'), rest)

/-- The tokens of a text inside the brackets `opened`, the innermost first; `fuel` bounds their
number. -/
def actionTokens : Nat → List Char → List Char → Except ActionFault (List ActionToken)
  | 0, _, _ => .ok []
  | _, _, [] => .ok []
  | fuel + 1, opened, c :: rest =>
    if c == ' ' || c == '\t' || c == '\n' then actionTokens fuel opened rest
    else if c == '#' then actionTokens fuel opened (rest.dropWhile (· != '\n'))
    else if seemsName c && !Text.isAsciiDigit c then do
      let word := (c :: rest).takeWhile seemsName
      if let some c := intruder? word then throw (.character c)
      let behind := (c :: rest).drop word.length
      let kind? := textKinds.lookup (word.map Char.toLower)
      let (token, behind) ← match behind.head?.filter isQuote, kind? with
        | some quote, some kind => quotedToken kind quote (behind.drop 1)
        | _, _ => pure (.name word, behind)
      return token :: (← actionTokens fuel opened behind)
    else if Text.isAsciiDigit c || (c == '.' && rest.head?.any Text.isAsciiDigit) then do
      let (token, behind) ← numberToken (c :: rest)
      return token :: (← actionTokens fuel opened behind)
    else if isQuote c then do
      let (token, behind) ← quotedToken .plain c rest
      return token :: (← actionTokens fuel opened behind)
    else if (closingOf? c).isSome then do
      return .opening c :: (← actionTokens fuel (c :: opened) rest)
    else if c == ')' || c == '\x7d' then
      match opened with
      | [] => .error (.unopened c)
      | o :: opened =>
        if closingOf? o = some c then do
          return .closing c :: (← actionTokens fuel opened rest)
        else .error (.mismatch o c)
    else match signs.find? (·.isPrefixOf (c :: rest)) with
      | some sign => do
        return .sign sign :: (← actionTokens fuel opened ((c :: rest).drop sign.length))
      | none => do return .sign [c] :: (← actionTokens fuel opened rest)

end LabelPress.Terminal
