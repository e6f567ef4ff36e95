import LabelPress.Yaml.Timestamp

/-!
# Types of scalars

A scalar without quotes and without a tag has the type that its text looks like: a null, a truth
value, a number, a timestamp, or else a text.
-/

namespace LabelPress.Yaml

inductive Tag where
  | null
  | bool
  | integer
  | real
  | bytes
  | timestamp
  | text
  | sequence
  | mapping
  | pairs
  | set
  | merge
  | value
  | unknown
  deriving DecidableEq

namespace Tag

def names : List (String × Tag) := [
  ("null", null), ("bool", bool), ("int", integer), ("float", real), ("binary", bytes),
  ("timestamp", timestamp), ("str", text), ("seq", sequence), ("map", mapping), ("omap", pairs),
  ("pairs", pairs), ("set", set), ("merge", merge), ("value", value)]

def nameSpace : String := "tag:yaml.org,2002:"

def ofName (name : String) : Tag :=
  match names.find? fun entry => nameSpace ++ entry.1 == name with
  | some (_, tag) => tag
  | none => unknown

def nullWords : List String := ["", "~", "null", "Null", "NULL"]

def boolWords : List String :=
  ["yes", "Yes", "YES", "no", "No", "NO", "true", "True", "TRUE", "false", "False", "FALSE",
    "on", "On", "ON", "off", "Off", "OFF"]

def infinityWords : List String := [".inf", ".Inf", ".INF"]
def nanWords : List String := [".nan", ".NaN", ".NAN"]

def unsigned : List Char → List Char
  | '-' :: rest => rest
  | '+' :: rest => rest
  | cs => cs

def isFiller (c : Char) : Bool := Text.isAsciiDigit c || c == '_'

/-- Whether `cs` is a digit that satisfies `first` and then digits and underscores. -/
def isRun (first : Char → Bool) : List Char → Bool
  | [] => false
  | c :: rest => first c && rest.all isFiller

/-- Whether `cs` is one sixtieth part of a number: one digit, or two below sixty. -/
def isSixtieth : List Char → Bool
  | [d] => Text.isAsciiDigit d
  | [d, e] => '0' ≤ d && d ≤ '5' && Text.isAsciiDigit e
  | _ => false

/-- Whether `cs` is an integer without a sign: binary, octal, decimal, hexadecimal or in base 60. -/
def isUnsignedInteger (cs : List Char) : Bool :=
  let filled (test : Char → Bool) (ds : List Char) := !ds.isEmpty && ds.all test
  let start (c : Char) : Bool := Text.isAsciiDigit c && c != '0'
  match cs with
  | ['0'] => true
  | '0' :: rest =>
    filled (fun c => ('0' ≤ c && c ≤ '7') || c == '_') rest ||
    (match rest with
    | 'b' :: ds => filled (fun c => c == '0' || c == '1' || c == '_') ds
    | 'x' :: ds => filled (fun c => (Text.hexValue? c).isSome || c == '_') ds
    | _ => false)
  | cs => match cs.splitOn ':' with
    | [] => false
    | first :: parts => isRun start first && parts.all isSixtieth

/-- Whether `cs` is nothing or an exponent, which must have a sign. -/
def isExponent : List Char → Bool
  | [] => true
  | [_] => false
  | e :: sign :: ds =>
    (e == 'e' || e == 'E') && (sign == '-' || sign == '+') && !ds.isEmpty &&
      ds.all Text.isAsciiDigit

/-- Whether `cs` is digits, a point and more digits, and perhaps an exponent. -/
def isDecimal (cs : List Char) : Bool :=
  match cs.dropWhile isFiller with
  | '.' :: places =>
    isRun Text.isAsciiDigit (cs.takeWhile isFiller) && isExponent (places.dropWhile isFiller)
  | _ => false

/-- Whether `cs` is a point and digits, and perhaps an exponent. -/
def isFraction : List Char → Bool
  | '.' :: places =>
    isRun Text.isAsciiDigit (places.takeWhile isFiller) && isExponent (places.dropWhile isFiller)
  | _ => false

/-- Whether `cs` is a number in base 60 that ends with a point and digits. -/
def isSixtiethReal (cs : List Char) : Bool :=
  match (cs.takeWhile (· != '.')).splitOn ':', cs.dropWhile (· != '.') with
  | first :: part :: parts, '.' :: places =>
    isRun Text.isAsciiDigit first && (part :: parts).all isSixtieth && places.all isFiller
  | _, _ => false

def isReal (cs : List Char) : Bool :=
  let body := unsigned cs
  isDecimal body || isFraction cs || isSixtiethReal body ||
    infinityWords.contains (String.ofList body) || nanWords.contains (String.ofList cs)

/-- The type that characters without quotes look like. A line feed at their end is not looked at. -/
def ofChars (cs : List Char) : Tag :=
  let cs := if cs.length ≠ 1 ∧ cs.getLast? = some '\n' then cs.dropLast else cs
  let word := String.ofList cs
  if nullWords.contains word then null
  else if boolWords.contains word then bool
  else if isReal cs then real
  else if isUnsignedInteger (unsigned cs) then integer
  else if word == "<<" then merge
  else if Timestamp.isPlain cs then timestamp
  else if word == "=" then value
  else if ["!", "&", "*"].contains word then unknown
  else Tag.text

/-- The type that a text without quotes looks like. No type but that of texts has halves. -/
def ofPlain (t : Text) : Tag := (Text.chars? t).elim Tag.text ofChars

end Tag
end LabelPress.Yaml
