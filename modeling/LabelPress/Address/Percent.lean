import LabelPress.Text.Encoding

/-!
# Characters in addresses

A part of an address holds some of the characters of ASCII; the bytes of all others are written as
percent signs with two digits each.
-/

namespace LabelPress.Address

def hexDigit (n : Nat) : Char :=
  if n < 10 then Char.ofNat ('0'.toNat + n) else Char.ofNat ('A'.toNat + n - 10)

def escapedByte (b : UInt8) : Text := ['%', hexDigit (b.toNat / 16), hexDigit (b.toNat % 16)]

/-- A code point in a part that holds the characters that are `safe`; of all others stand the bytes
behind percent signs. -/
def quotedPoint (safe : Char → Bool) (c : CodePoint) : Except Text.EncodingFault Text :=
  match c with
  | .char c =>
    .ok (if safe c then [c] else (Text.Utf8.encode c.toString).flatMap escapedByte)
  | .half h => .error ⟨.utf8, h.code, 0, 1⟩

def quoted (safe : Char → Bool) (t : Text) : Except Text.EncodingFault Text := do
  return (← t.mapM (quotedPoint safe)).flatten

def isUnreserved (c : Char) : Bool := c.isAlphanum || "-._~".toList.contains c

/-- Whether `c` is one of the characters of ASCII that print, other than `others`. -/
def isPlainBut (others : String) (c : Char) : Bool :=
  ' ' ≤ c && c ≤ '~' && !others.toList.contains c

def inPath : Char → Bool := isPlainBut " \"#<>?\x60\x7b\x7d"

def inQuery : Char → Bool := isPlainBut " \"#<>"

def inFragment : Char → Bool := isPlainBut " \"<>\x60"

def inUser : Char → Bool := isPlainBut " \"#<>?\x60\x7b\x7d/;=@[\\]^|"

def inHost (c : Char) : Bool :=
  isUnreserved c || "!$&'()*+,;=\"\x60\x7b\x7d%|\\".toList.contains c

end LabelPress.Address
