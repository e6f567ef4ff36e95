/-!
# Base 64

Four characters stand for three bytes. Characters outside the alphabet are passed over.
-/

namespace LabelPress.Text.Base64

def value? (c : Char) : Option Nat :=
  if 'A' ≤ c && c ≤ 'Z' then some (c.toNat - 'A'.toNat)
  else if 'a' ≤ c && c ≤ 'z' then some (c.toNat - 'a'.toNat + 26)
  else if '0' ≤ c && c ≤ '9' then some (c.toNat - '0'.toNat + 52)
  else if c == '+' then some 62
  else if c == '/' then some 63
  else none

/-- The bytes that follow when `held` is the value of `count` characters of a group of four, and
`pads` marks of the end have come since. The end must come after a whole group. -/
def decodeFrom (count held pads : Nat) : List Char → Option (List UInt8)
  | [] => if count = 0 then some [] else none
  | c :: rest =>
    if c == '=' then
      if 2 ≤ count then
        if 4 ≤ count + pads + 1 then some [] else decodeFrom count held (pads + 1) rest
      else decodeFrom count held pads rest
    else match value? c with
      | none => decodeFrom count held pads rest
      | some v =>
        let n := held * 64 + v
        match count with
        | 0 => decodeFrom 1 v 0 rest
        | 1 => (decodeFrom 2 (n % 16) 0 rest).map (UInt8.ofNat (n / 16) :: ·)
        | 2 => (decodeFrom 3 (n % 4) 0 rest).map (UInt8.ofNat (n / 4) :: ·)
        | _ => (decodeFrom 0 0 0 rest).map (UInt8.ofNat n :: ·)

def decode (cs : List Char) : Option (List UInt8) := decodeFrom 0 0 0 cs

end LabelPress.Text.Base64
