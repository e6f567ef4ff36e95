import LabelPress.Text.Printable

/-!
# Quoted texts

A text as a message shows it: between quotes, with the quote, the backslash and everything that
cannot be printed written as an escape. Apostrophes enclose it, unless the text holds one and no
double quote.
-/

namespace LabelPress.Text

def hexDigits (width n : Nat) : List Char :=
  let ds := Nat.toDigits 16 n
  List.replicate (width - ds.length) '0' ++ ds

def codeEscape (n : Nat) : List Char :=
  if n < 0x100 then '\\' :: 'x' :: hexDigits 2 n
  else if n < 0x10000 then '\\' :: 'u' :: hexDigits 4 n
  else '\\' :: 'U' :: hexDigits 8 n

def quotePoint (q c : CodePoint) : Text :=
  if c == q || c == '\\' then ['\\', c]
  else if c == '\n' then ['\\', 'n']
  else if c == '\r' then ['\\', 'r']
  else if c == '\t' then ['\\', 't']
  else if isPrintable c then [c]
  else ofChars (codeEscape c.toNat)

def quoteMark (t : Text) : Char :=
  if t.contains '\'' && !t.contains '"' then '"' else '\''

def quoted (t : Text) : Text :=
  let q : CodePoint := quoteMark t
  q :: t.flatMap (quotePoint q) ++ [q]

def quoteByte (q : Char) (b : UInt8) : List Char :=
  let c := Char.ofNat b.toNat
  if c == q || c == '\\' then ['\\', c]
  else if c == '\n' then ['\\', 'n']
  else if c == '\r' then ['\\', 'r']
  else if c == '\t' then ['\\', 't']
  else if ' ' ≤ c && c ≤ '~' then [c]
  else '\\' :: 'x' :: hexDigits 2 b.toNat

def quotedBytes (bytes : List UInt8) : Text :=
  let q := quoteMark (bytes.map fun b => .char (Char.ofNat b.toNat))
  ofChars ('b' :: q :: bytes.flatMap (quoteByte q) ++ [q])

end LabelPress.Text
