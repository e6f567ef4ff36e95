import LabelPress.Text.Quoted
import LabelPress.Text.Utf8

/-!
# Texts as bytes

A text is written in ASCII or in UTF-8. ASCII has no bytes for characters beyond its own, and UTF-8
has none for halves.
-/

namespace LabelPress.Text

inductive Encoding where
  | ascii
  | utf8
  deriving DecidableEq

namespace Encoding

def name : Encoding → String
  | ascii => "ascii"
  | utf8 => "utf-8"

def reason : Encoding → String
  | ascii => "ordinal not in range(128)"
  | utf8 => "surrogates not allowed"

def has (e : Encoding) (c : CodePoint) : Bool :=
  match e with
  | ascii => c.toNat < 0x80
  | utf8 => c.char?.isSome

end Encoding

structure EncodingFault where
  encoding : Encoding
  /-- The code of the first of them. -/
  code : Nat
  start : Nat
  length : Nat
  deriving DecidableEq

/-- The text of a fault: one code point is named, of several only the places. -/
def EncodingFault.message (f : EncodingFault) : String :=
  let place :=
    if f.length = 1 then
      "character '" ++ String.ofList (codeEscape f.code) ++ "' in position " ++ toString f.start
    else
      "characters in position " ++ toString f.start ++ "-" ++ toString (f.start + f.length - 1)
  "'" ++ f.encoding.name ++ "' codec can't encode " ++ place ++ ": " ++ f.encoding.reason

def Encoding.check (e : Encoding) (t : Text) : Except EncodingFault Unit :=
  let before := t.takeWhile e.has
  match t.drop before.length with
  | [] => .ok ()
  | c :: rest =>
    let length := 1 + (rest.takeWhile fun c => !e.has c).length
    .error ⟨e, c.toNat, before.length, length⟩

def encoded (t : Text) : Except EncodingFault (List UInt8) := do
  Encoding.utf8.check t
  return Utf8.encode ((string? t).getD "")

end LabelPress.Text
