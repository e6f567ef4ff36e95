import LabelPress.Host

/-!
# The order of a set

A set keeps its members in a table of a power of two of slots. A member goes to the slot of its
residue, or to the next free slot of its search. Members are told from the first slot to the last.
The residue of a number is fixed, and that of anything else is up to the host.
-/

namespace LabelPress.Members

variable [Host]

def modulus : Nat := 2305843009213693951

def modulusBits : Nat := 61

/-- The residue of a rational whose denominator is a power of two: halving turns the binary digits
of a residue by one place. It has the sign of the rational, and minus one gives way to minus two. -/
def residueOf (q : Rat) : Int :=
  let turned := Nat.pow 2 ((modulusBits - q.den.log2 % modulusBits) % modulusBits)
  let n := q.num.natAbs % modulus * turned % modulus
  let signed : Int := if q.num < 0 then -n else n
  if signed = -1 then -2 else signed

def infinityResidue : Int := 314159

def residue (s : Scalar) : Int :=
  match s.toNumber?.bind Number.rank with
  | some (0, q) => residueOf q
  | some (side, _) => side * infinityResidue
  | none => Host.hash s

def slotCount (count : Nat) : Nat :=
  if count * 5 < 21 then 8 else Nat.pow 2 ((2 * count).log2 + 1)

def rowLength : Nat := 9

/-- The first free slot of a search that starts at `slot`; `rest` are the digits of the residue that
have not yet had a say in it. -/
def freeSlot (table : Array (Option Scalar)) : Nat → Nat → Nat → Nat
  | 0, _, slot => slot
  | fuel + 1, rest, slot =>
    let last := if slot + rowLength < table.size then slot + rowLength else slot
    let row := List.range' slot (last + 1 - slot)
    match row.find? fun i => (table[i]?.join).isNone with
    | some i => i
    | none => freeSlot table fuel (rest / 32) ((slot * 5 + 1 + rest / 32) % table.size)

def place (table : Array (Option Scalar)) (member : Scalar) : Array (Option Scalar) :=
  let word := (residue member % 18446744073709551616).toNat
  let slot := freeSlot table (table.size * table.size + 16) word (word % table.size)
  table.setIfInBounds slot (some member)

def arranged (members : List Scalar) : List Scalar :=
  (members.foldl place (Array.replicate (slotCount members.length) none)).toList.reduceOption

end LabelPress.Members
