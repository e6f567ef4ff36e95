import LabelPress.Binary64.Basic

/-!
# Decimal texts of binary64 numbers

The shortest decimal that reads back as a number, the text of that decimal, the text with two
places, and the number that a decimal stands for.
-/

namespace LabelPress

structure Decimal where
  digits : Nat
  exponent : Int
  deriving DecidableEq

namespace Decimal

def toRat (d : Decimal) : Rat := d.digits * (10 : Rat) ^ d.exponent

def width (n : Nat) : Nat := (Nat.toDigits 10 n).length

/-- The same decimal without zeros at the end of its digits; `fuel` bounds their number. -/
def dropZeros : Nat → Decimal → Decimal
  | 0, d => d
  | fuel + 1, d =>
    if d.digits ≠ 0 ∧ d.digits % 10 = 0 then dropZeros fuel ⟨d.digits / 10, d.exponent + 1⟩ else d

end Decimal

namespace Binary64

/-- The rationals that round to a number: from `low` to `high`, with the ends if `closed`. -/
structure Basin where
  low : Rat
  high : Rat
  closed : Bool

def basin (m : Nat) (e : Int) : Basin :=
  let unit := (2 : Rat) ^ e
  let below : Rat := if m = leastMantissa ∧ e ≠ -1074 then 1 / 4 else 1 / 2
  ⟨(m - below) * unit, (m + 1 / 2) * unit, m % 2 == 0⟩

def Basin.contains (b : Basin) (q : Rat) : Bool :=
  if b.closed then b.low ≤ q && q ≤ b.high else b.low < q && q < b.high

/-- The least `p` with `q < 10 ^ p`, for positive `q`. -/
def decimalPoint (q : Rat) : Int :=
  let p : Int := (Decimal.width q.num.natAbs : Int) - Decimal.width q.den
  if q < (10 : Rat) ^ p then p else p + 1

/-- The decimal of `n` digits in the basin `b` that is nearest to `q`, an even one of two. -/
def onGrid (b : Basin) (q : Rat) (point : Int) (n : Nat) : Option Decimal :=
  let exponent := point - n
  let scaled := q / (10 : Rat) ^ exponent
  let down := scaled.floor.toNat
  let candidate (d : Nat) : Option Decimal :=
    let c : Decimal := ⟨d, exponent⟩
    if b.contains c.toRat then some c else none
  match candidate down, candidate (down + 1) with
  | some c, none => some c
  | none, some c => some c
  | none, none => none
  | some c, some d =>
    let rest := scaled - down
    if rest < 1 / 2 then some c
    else if 1 / 2 < rest then some d
    else if down % 2 = 0 then some c
    else some d

/-- The first hit among the grids of `n`, `n + 1`, … digits; `fuel` bounds the number of grids. -/
def firstOnGrid (b : Basin) (q : Rat) (point : Int) : Nat → Nat → Option Decimal
  | 0, _ => none
  | fuel + 1, n => match onGrid b q point n with
    | some d => some d
    | none => firstOnGrid b q point fuel (n + 1)

/-- The shortest decimal that rounds to the magnitude `m * 2 ^ e`; seventeen digits always do. -/
def shortest (m : Nat) (e : Int) : Decimal :=
  if m = 0 then ⟨0, 0⟩
  else
    let q : Rat := m * (2 : Rat) ^ e
    let d := (firstOnGrid (basin m e) q (decimalPoint q) 17 1).getD ⟨0, 0⟩
    Decimal.dropZeros 17 d

/-- How a kind of document spells the numbers that plain decimals leave open. -/
structure Spelling where
  nan : String
  infinity : String
  /-- Whether a point stands before an exponent even if no digit follows it. -/
  pointBeforeExponent : Bool

def Spelling.plain : Spelling := ⟨"nan", "inf", false⟩

/-- The text of a magnitude given by the digits `ds` with the point after the first `point`:
positional from `1e-4` to below `1e16`, with an exponent of at least two digits elsewhere. -/
def decimalText (style : Spelling) (ds : List Char) (point : Int) : List Char :=
  let count : Int := ds.length
  if -4 < point ∧ point ≤ 16 then
    if point ≤ 0 then '0' :: '.' :: (List.replicate (-point).toNat '0' ++ ds)
    else if count ≤ point then ds ++ List.replicate (point - count).toNat '0' ++ ['.', '0']
    else ds.take point.toNat ++ '.' :: ds.drop point.toNat
  else
    let exponent := point - 1
    let shown := Nat.toDigits 10 exponent.natAbs
    let padded := List.replicate (2 - shown.length) '0' ++ shown
    let lead := match ds with
      | [] => []
      | [d] => if style.pointBeforeExponent then [d, '.', '0'] else [d]
      | d :: rest => d :: '.' :: rest
    lead ++ 'e' :: (if exponent < 0 then '-' else '+') :: padded

def text (style : Spelling) : Binary64 → String
  | .nan _ => style.nan
  | .infinity negative => if negative then "-" ++ style.infinity else style.infinity
  | .finite negative m e _ =>
    let d := shortest m e
    let ds := Nat.toDigits 10 d.digits
    let point := if m = 0 then 1 else d.exponent + ds.length
    let body := decimalText style ds point
    String.ofList (if negative then '-' :: body else body)

/-- The text of a number with two places, an exact half of a hundredth going to the even one. -/
def hundredthsText : Binary64 → String
  | .nan _ => "nan"
  | .infinity negative => if negative then "-inf" else "inf"
  | .finite negative m e _ =>
    let h := (roundHalfEven (m * (2 : Rat) ^ e * 100)).toNat
    let places := Nat.toDigits 10 (h % 100)
    let whole := Nat.toDigits 10 (h / 100)
    let body := whole ++ '.' :: (List.replicate (2 - places.length) '0' ++ places)
    String.ofList (if negative then '-' :: body else body)

/-- The number nearest to a decimal. Magnitudes beyond all finite numbers, or below half the least
one, are recognised by the number of their digits. -/
def ofDecimal (negative : Bool) (d : Decimal) : Binary64 :=
  let point := d.exponent + Decimal.width d.digits
  if d.digits = 0 then zero negative
  else if 310 < point then .infinity negative
  else if point < -330 then zero negative
  else nearest negative d.toRat

end Binary64
end LabelPress
