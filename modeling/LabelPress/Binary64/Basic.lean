/-!
# Binary64 numbers

The numbers of the binary64 format as the exact rationals they stand for: a sign, a mantissa and a
power of two. Every operation computes its exact rational result and rounds it once, to the nearest
number of the format, a half going to the even mantissa.
-/

namespace LabelPress

def roundHalfEven (q : Rat) : Int :=
  let n := q.floor
  let rest := q - n
  if rest < 1 / 2 then n
  else if 1 / 2 < rest then n + 1
  else if n % 2 = 0 then n
  else n + 1

def leastMantissa : Nat := 4503599627370496

/-- The mantissas and exponents of finite numbers, one pair for each magnitude: mantissas have 53
binary digits, and fewer only with the least exponent. -/
def Canonical (m : Nat) (e : Int) : Prop :=
  m < 2 * leastMantissa ∧ -1074 ≤ e ∧ e ≤ 971 ∧ (leastMantissa ≤ m ∨ e = -1074)

instance (m : Nat) (e : Int) : Decidable (Canonical m e) := by
  unfold Canonical; infer_instance

inductive Binary64 where
  /-- What is no number. The payload tells the constants of texts apart; a result has zero. -/
  | nan (payload : Nat)
  | infinity (negative : Bool)
  /-- The number of magnitude `mantissa * 2 ^ exponent`; a zero has a sign too. -/
  | finite (negative : Bool) (mantissa : Nat) (exponent : Int)
      (canonical : Canonical mantissa exponent)
  deriving DecidableEq

namespace Binary64

/-- The result of an operation that has none. -/
def noNumber : Binary64 := .nan 0

def zero (negative : Bool) : Binary64 := .finite negative 0 (-1074) (by decide)

/-- The rational that a finite number stands for, and zero for the others. -/
def toRat : Binary64 → Rat
  | .finite negative m e _ => (if negative then -(m : Rat) else m) * (2 : Rat) ^ e
  | _ => 0

def isFinite : Binary64 → Bool
  | .finite .. => true
  | _ => false

def isZero : Binary64 → Bool
  | .finite _ m _ _ => m == 0
  | _ => false

/-- The largest `k` with `2 ^ k ≤ q`, for positive `q`. -/
def floorLog2 (q : Rat) : Int :=
  let k : Int := (q.num.natAbs.log2 : Int) - (q.den.log2 : Int)
  if (2 : Rat) ^ k ≤ q then k else k - 1

def gridExponent (q : Rat) : Int := max (-1074) (floorLog2 q - 52)

def nearest (negative : Bool) (q : Rat) : Binary64 :=
  let e := gridExponent q
  let m := (roundHalfEven (q / (2 : Rat) ^ e)).toNat
  if h : Canonical m e then .finite negative m e h
  else if h : Canonical (m / 2) (e + 1) then .finite negative (m / 2) (e + 1) h
  else .infinity negative

/-- The number nearest to `q`; a zero gets the sign `zeroNegative`. -/
def round (zeroNegative : Bool) (q : Rat) : Binary64 :=
  if q = 0 then zero zeroNegative
  else if q < 0 then nearest true (-q)
  else nearest false q

def ofRat (q : Rat) : Binary64 := round false q

def ofInt (n : Int) : Binary64 := ofRat n

def neg : Binary64 → Binary64
  | .nan _ => noNumber
  | .infinity s => .infinity (!s)
  | .finite s m e h => .finite (!s) m e h

/-- The rounded sum. Opposite infinities have none, and only two negative zeros make one. -/
def add : Binary64 → Binary64 → Binary64
  | .nan _, _ | _, .nan _ => noNumber
  | .infinity s, .infinity t => if s = t then .infinity s else noNumber
  | .infinity s, .finite .. | .finite .., .infinity s => .infinity s
  | x@(.finite s ..), y@(.finite t ..) => round (s && t) (x.toRat + y.toRat)

/-- The rounded product. An infinity times a zero has none. -/
def mul : Binary64 → Binary64 → Binary64
  | .nan _, _ | _, .nan _ => noNumber
  | .infinity s, .infinity t => .infinity (s != t)
  | .infinity s, .finite t m _ _ | .finite t m _ _, .infinity s =>
    if m = 0 then noNumber else .infinity (s != t)
  | x@(.finite s ..), y@(.finite t ..) => round (s != t) (x.toRat * y.toRat)

def div : Binary64 → Binary64 → Binary64
  | .nan _, _ | _, .nan _ => noNumber
  | .infinity _, .infinity _ => noNumber
  | .infinity s, .finite t .. => .infinity (s != t)
  | .finite s .., .infinity t => zero (s != t)
  | x@(.finite s ..), y@(.finite t ..) => round (s != t) (x.toRat / y.toRat)

/-- What remains of `x` after its whole multiples of the positive `n` are taken away towards zero;
a remainder of the wrong sign is then moved up by `n`, which rounds. -/
def mod (x : Binary64) (n : Nat) : Binary64 :=
  match x with
  | .finite .. =>
    let r := x.toRat - n * ((x.toRat / n).num.tdiv (x.toRat / n).den : Int)
    if r < 0 then add (ofRat r) (ofInt n) else ofRat r
  | _ => noNumber

/-- The place of a number in the order: below all rationals, among them, or above. -/
def rank : Binary64 → Option (Int × Rat)
  | .nan _ => none
  | .infinity true => some (-1, 0)
  | .infinity false => some (1, 0)
  | x => some (0, x.toRat)

end Binary64
end LabelPress
