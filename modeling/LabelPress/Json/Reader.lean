import LabelPress.Fault
import LabelPress.Text.Digit

/-!
# Reading JSON

A recursive reader of JSON texts that also takes the names of the numbers that are no decimals. A
fault is placed by the number of code points from it to the end of the text.
-/

namespace LabelPress.Json

inductive Stop where
  | fault (fault : JsonFault) (remaining : Nat)
  | digits (count : Nat)
  deriving DecidableEq

def stopAt (fault : JsonFault) (cs : Text) : Except Stop α := .error (.fault fault cs.length)

def isBlank (c : CodePoint) : Bool := c == ' ' || c == '\t' || c == '\n' || c == '\r'

def skip (cs : Text) : Text := cs.dropWhile isBlank

def hex4 (a b c d : CodePoint) : Option Nat := do
  let a ← a.char?.bind Text.hexValue?
  let b ← b.char?.bind Text.hexValue?
  let c ← c.char?.bind Text.hexValue?
  let d ← d.char?.bind Text.hexValue?
  return ((a * 16 + b) * 16 + c) * 16 + d

def plainEscape? : CodePoint → Option Char
  | .char '"' => some '"'
  | .char '\\' => some '\\'
  | .char '/' => some '/'
  | .char 'b' => some '\x08'
  | .char 'f' => some '\x0c'
  | .char 'n' => some '\n'
  | .char 'r' => some '\r'
  | .char 't' => some '\t'
  | _ => none

def secondHalf? : Text → Option Half
  | .char '\\' :: .char 'u' :: a :: b :: c :: d :: _ =>
    match (hex4 a b c d).map CodePoint.ofNat with
    | some (.half h) => if h.isSecond then some h else none
    | _ => none
  | _ => none

/-- The code point of an escape put before a text that has been read from `behind`. A first half
joins a second one if that is escaped too. -/
def putEscaped (c : CodePoint) (behind t : Text) : Text :=
  match c, secondHalf? behind with
  | .half first, some second =>
    if first.isSecond then c :: t else CodePoint.ofHalves first second :: t.drop 1
  | c, _ => c :: t

/-- The text up to its closing quote, and what follows that. The text's opening quote stands `start`
code points before the end. -/
def textBody (start : Nat) : Text → Except Stop (Text × Text)
  | [] => .error (.fault .unterminated start)
  | .char '"' :: rest => .ok ([], rest)
  | [.char '\\'] => .error (.fault .unterminated start)
  | .char '\\' :: .char 'u' :: a :: b :: c :: d :: x :: rest =>
    match hex4 a b c d with
    | none => .error (.fault .codePoint (rest.length + 6))
    | some n => do
      let (t, after) ← textBody start (x :: rest)
      return (putEscaped (.ofNat n) (x :: rest) t, after)
  | .char '\\' :: .char 'u' :: rest => .error (.fault .codePoint (rest.length + 1))
  | .char '\\' :: c :: rest =>
    match plainEscape? c with
    | none => .error (.fault .escape (rest.length + 2))
    | some e => do
      let (t, after) ← textBody start rest
      return (e :: t, after)
  | c :: rest =>
    if c.toNat < 0x20 then .error (.fault .control (rest.length + 1))
    else do
      let (t, after) ← textBody start rest
      return (c :: t, after)

def isDigit (c : CodePoint) : Bool := c.char?.any Text.isAsciiDigit

def digitsValue (ds : Text) : Nat := ds.foldl (fun n c => n * 10 + (c.toNat - '0'.toNat)) 0

def spanDigits (cs : Text) : Text × Text :=
  (cs.takeWhile isDigit, cs.dropWhile isDigit)

def fraction (cs : Text) : Text × Text :=
  match cs with
  | .char '.' :: rest =>
    let (ds, after) := spanDigits rest
    if ds.isEmpty then ([], cs) else (ds, after)
  | _ => ([], cs)

def exponent (cs : Text) : Option Int × Text :=
  match cs with
  | [] => (none, cs)
  | e :: rest =>
    if e == 'e' || e == 'E' then
      let (negative, digits) := match rest with
        | .char '-' :: more => (true, more)
        | .char '+' :: more => (false, more)
        | more => (false, more)
      let (ds, after) := spanDigits digits
      if ds.isEmpty then (none, cs)
      else (some (if negative then -(digitsValue ds : Int) else digitsValue ds), after)
    else (none, cs)

def assemble (negative : Bool) (ds fs : Text) (exponent : Option Int) :
    Except Stop Number :=
  if fs.isEmpty && exponent.isNone then
    if digitLimit < ds.length then .error (.digits ds.length)
    else
      let n : Int := digitsValue ds
      .ok (.int (if negative then -n else n))
  else .ok (.real (.ofDecimal negative
    ⟨digitsValue (ds ++ fs), exponent.getD 0 - (fs.length : Int)⟩))

def wholeDigits (cs : Text) : Text × Text :=
  match cs with
  | .char '0' :: rest => ([.char '0'], rest)
  | _ => spanDigits cs

def number (cs : Text) : Except Stop (Number × Text) :=
  let (negative, unsigned) := match cs with
    | .char '-' :: rest => (true, rest)
    | _ => (false, cs)
  let (ds, afterWhole) := wholeDigits unsigned
  if ds.isEmpty then stopAt .value cs
  else
    let (fs, afterFraction) := fraction afterWhole
    let (e, rest) := exponent afterFraction
    (assemble negative ds fs e).map (·, rest)

def nanPayload : Nat := 1

def words : List (Text × Value) := [
  ("null", .null), ("true", .bool true), ("false", .bool false),
  ("NaN", .number (.real (.nan nanPayload))),
  ("Infinity", .number (.real (.infinity false))),
  ("-Infinity", .number (.real (.infinity true)))]

def word? (cs : Text) : Option (Value × Text) :=
  (words.find? fun (w, _) => w.isPrefixOf cs).map fun (w, v) => (v, cs.drop w.length)

mutual

def value : Nat → Text → Except Stop (Value × Text)
  | 0, cs => stopAt .value cs
  | fuel + 1, cs =>
    match cs with
    | .char '"' :: rest => do
      let (s, rest) ← textBody cs.length rest
      return (.text s, rest)
    | .char '[' :: rest =>
      match skip rest with
      | .char ']' :: after => .ok (.list [], after)
      | inner => do
        let (vs, rest) ← items fuel inner
        return (.list vs, rest)
    | .char '\x7b' :: rest =>
      match skip rest with
      | .char '\x7d' :: after => .ok (.mapping [], after)
      | inner => do
        let (es, rest) ← members fuel inner
        return (.mapping (Entries.ofList es), rest)
    | _ =>
      match word? cs with
      | some found => .ok found
      | none => (number cs).map fun (n, rest) => (.number n, rest)

def items : Nat → Text → Except Stop (List Value × Text)
  | 0, cs => stopAt .value cs
  | fuel + 1, cs => do
    let (v, rest) ← value fuel cs
    match skip rest with
    | .char ']' :: after => return ([v], after)
    | .char ',' :: after =>
      let (vs, rest) ← items fuel (skip after)
      return (v :: vs, rest)
    | other => stopAt .comma other

def members : Nat → Text → Except Stop (List (Scalar × Value) × Text)
  | 0, cs => stopAt .value cs
  | fuel + 1, cs =>
    match cs with
    | .char '"' :: rest => do
      let (k, rest) ← textBody cs.length rest
      match skip rest with
      | .char ':' :: after =>
        let (v, rest) ← value fuel (skip after)
        let entry : Scalar × Value := (.text k, v)
        match skip rest with
        | .char '\x7d' :: after => return ([entry], after)
        | .char ',' :: after =>
          let (es, rest) ← members fuel (skip after)
          return (entry :: es, rest)
        | other => stopAt .comma other
      | other => stopAt .colon other
    | _ => stopAt .key cs

end

/-- The value that all of `cs` stands for. No value takes more than two steps for each character. -/
def document (cs : Text) : Except Stop Value := do
  if cs.head? = some (.char '\ufeff') then
    stopAt .byteOrderMark cs
  let (v, rest) ← value (2 * cs.length + 2) (skip cs)
  let rest := skip rest
  if rest.isEmpty then return v else stopAt .extra rest

/-- The place in `cs` that `remaining` characters follow. -/
def placeOf (cs : Text) (remaining : Nat) : Place :=
  let before := cs.take (cs.length - remaining)
  let line := before.reverse.takeWhile (· != .char '\n')
  ⟨before.count (.char '\n') + 1, line.length + 1, before.length⟩

/-- The value that a text stands for. Values may be nested to any depth: a program that runs out of
stack on deep ones is assumed not to meet them. -/
def parse (text : Text) : Except ReadFault Value :=
  (document text).mapError fun
    | .fault fault remaining => .broken (.json fault (placeOf text remaining))
    | .digits count => .content (.arithmetic (.tooManyDigitsRead count))

end LabelPress.Json
