import LabelPress.Binary64.Decimal
import LabelPress.Numeral.Digits

/-!
# Numerals of binary64 numbers
-/

namespace LabelPress.Numeral

def spanDigits (cs : List Char) : List Char × List Char :=
  (cs.takeWhile Text.isAsciiDigit, cs.dropWhile Text.isAsciiDigit)

/-- The exponent that `cs` is, which may be missing altogether. -/
def exponent? : List Char → Option Int
  | [] => some 0
  | c :: rest =>
    if c == 'e' || c == 'E' then
      let (negative, ds) := sign rest
      if ds.isEmpty then none
      else (value? 10 0 ds).map fun (n : Nat) => if negative then -(n : Int) else n
    else none

def decimal? (negative : Bool) (cs : List Char) : Option Binary64 := do
  let (whole, rest) := spanDigits cs
  let (places, rest) := match rest with
    | '.' :: rest => spanDigits rest
    | rest => ([], rest)
  let digits := whole ++ places
  if digits.isEmpty then none
  let n ← value? 10 0 digits
  let e ← exponent? rest
  return .ofDecimal negative ⟨n, e - places.length⟩

def infinityNames : List (List Char) := ["inf".toList, "infinity".toList]
def nanName : List Char := "nan".toList

def ofChars? (cs : List Char) : Option Binary64 :=
  let (negative, body) := sign cs
  let name := body.map Char.toLower
  if infinityNames.contains name then some (.infinity negative)
  else if name = nanName then some .noNumber
  else decimal? negative body

end LabelPress.Numeral

def LabelPress.Binary64.ofNumeral? (t : Text) : Option Binary64 :=
  (Numeral.joinDigits Text.isAsciiDigit false (Numeral.chars t)).bind Numeral.ofChars?
