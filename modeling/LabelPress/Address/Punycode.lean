/-!
# Names in ASCII

A name with other letters has a form in ASCII: its ASCII characters, and behind a hyphen the places
and code points of the others. They come in the order of their code points; each is told by how far
it is, in steps over all places and code points, from the one before, in a numeral whose digits are
worth more or less as earlier steps were long or short.
-/

namespace LabelPress.Address.Punycode

def base : Nat := 36

def thresholdRange : Nat × Nat := (1, 26)

def threshold (place bias : Nat) : Nat :=
  let (least, greatest) := thresholdRange
  min greatest (max least (base * (place + 1) - bias))

def digit (n : Nat) : Char :=
  if n < 26 then Char.ofNat ('a'.toNat + n) else Char.ofNat ('0'.toNat + n - 26)

def digitValue? (c : Char) : Option Nat :=
  if 'a' ≤ c && c ≤ 'z' then some (c.toNat - 'a'.toNat)
  else if 'A' ≤ c && c ≤ 'Z' then some (c.toNat - 'A'.toNat)
  else if '0' ≤ c && c ≤ '9' then some (c.toNat - '0'.toNat + 26)
  else none

def steadyLimit : Nat := 455

/-- A step brought under the limit, and the bias that this adds; `fuel` bounds the divisions. -/
def damped : Nat → Nat → Nat → Nat × Nat
  | 0, step, bias => (step, bias)
  | fuel + 1, step, bias =>
    if steadyLimit < step then damped fuel (step / 35) (bias + base) else (step, bias)

/-- The bias behind a step, where `count` characters are known; `isFirst` is the first step. -/
def adapted (step count : Nat) (isFirst : Bool) : Nat :=
  let step := if isFirst then step / 700 else step / 2
  let (rest, bias) := damped step (step + step / count) 0
  bias + base * rest / (rest + 38)

/-- The numeral of a step from the digit at `place` on; `fuel` bounds the number of digits. -/
def numeral (bias : Nat) : Nat → Nat → Nat → List Char
  | 0, _, n => [digit n]
  | fuel + 1, place, n =>
    let t := threshold place bias
    if n < t then [digit n]
    else
      let more := n - t
      digit (t + more % (base - t)) :: numeral bias fuel (place + 1) (more / (base - t))

structure Progress where
  written : List Char := []
  step : Nat := 0
  bias : Nat := 72
  /-- How many characters are told. -/
  count : Nat

/-- The progress over one character, where those of `code` are told next; `basics` are ASCII. -/
def Progress.over (basics code : Nat) (p : Progress) (c : Char) : Progress :=
  if c.toNat < code then { p with step := p.step + 1 }
  else if c.toNat = code then {
    written := p.written ++ numeral p.bias p.step 0 p.step
    step := 0
    bias := adapted p.step (p.count + 1) (p.count = basics)
    count := p.count + 1 }
  else p

def tell (cs : List Char) (basics : Nat) : Nat → List Nat → Progress → Progress
  | _, [], p => p
  | next, code :: codes, p =>
    let p := { p with step := p.step + (code - next) * (p.count + 1) }
    let p := cs.foldl (Progress.over basics code) p
    tell cs basics (code + 1) codes { p with step := p.step + 1 }

def firstCode : Nat := 0x80

def encode (cs : List Char) : List Char :=
  let basics := cs.filter fun c => c.toNat < firstCode
  let codes := (cs.map (·.toNat)).filter fun n => firstCode ≤ n
  let codes := codes.mergeSort.eraseDups
  let lead := if basics.isEmpty then [] else basics ++ ['-']
  lead ++ (tell cs basics.length firstCode codes { count := basics.length }).written

def readNumeral (bias : Nat) : Nat → Nat → List Char → Option (Nat × List Char)
  | _, _, [] => none
  | place, weight, c :: rest => do
    let n ← digitValue? c
    let t := threshold place bias
    if n < t then return (n * weight, rest)
    let (more, rest) ← readNumeral bias (place + 1) (weight * (base - t)) rest
    return (n * weight + more, rest)

structure Reading where
  told : List Char
  code : Nat := firstCode
  place : Nat := 0
  bias : Nat := 72
  isFirst : Bool := true

/-- The name with the characters that numerals tell; `fuel` bounds their number. -/
def readAll : Nat → Reading → List Char → Option (List Char)
  | _, r, [] => some r.told
  | 0, _, _ => none
  | fuel + 1, r, cs => do
    let (step, rest) ← readNumeral r.bias 0 1 cs
    let count := r.told.length + 1
    let code := r.code + (r.place + step) / count
    let place := (r.place + step) % count
    if 0x110000 ≤ code then none
    readAll fuel {
      told := r.told.take place ++ Char.ofNat code :: r.told.drop place
      code
      place := place + 1
      bias := adapted step count r.isFirst
      isFirst := false } rest

def decode (cs : List Char) : Option (List Char) :=
  let numerals := (cs.reverse.takeWhile (· != '-')).reverse
  let basics := cs.take (cs.length - numerals.length - 1)
  readAll numerals.length { told := basics } numerals

end LabelPress.Address.Punycode
