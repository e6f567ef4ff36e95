import LabelPress.Address.NameTable
import LabelPress.Address.Punycode
import LabelPress.Text.Case

/-!
# Host names of all scripts

A name has parts between dots. A part may hold letters, digits, marks and single hyphens within; no
mark comes first, what can be one character is one, some characters need certain neighbours, and a
part that runs from right to left does so as a whole. Parts with other characters than ASCII have a
form in ASCII, behind a sign that tells so.
-/

namespace LabelPress.Address

inductive Direction where
  | leftToRight
  | rightToLeft
  | europeanDigit
  | arabicDigit
  | mark
  | neutral
  deriving DecidableEq

def Direction.of (c : Char) : Direction :=
  if Text.inRanges undirectedBounds c then mark
  else if Text.inRanges rightToLeftBounds c then rightToLeft
  else if Text.inRanges europeanDigitBounds c then europeanDigit
  else if Text.inRanges arabicDigitBounds c then arabicDigit
  else if Text.inRanges neutralBounds c then neutral
  else leftToRight

/-- Whether a part that holds characters that run from right to left does so as a whole: from its
first character on, with digits of one kind, to a letter or digit at its end. -/
def runsAsOne (cs : List Char) : Bool :=
  let ds := cs.map Direction.of
  if !ds.contains .rightToLeft && !ds.contains .arabicDigit then true
  else
    let last := ds.reverse.find? (· != .mark)
    ds.head? = some .rightToLeft && !ds.contains .leftToRight &&
      !(ds.contains .europeanDigit && ds.contains .arabicDigit) &&
      (last = some .rightToLeft || last = some .europeanDigit || last = some .arabicDigit)

/-- The class of the place in which a mark combines, among runs; other characters have none. -/
def classAmong (code : Nat) : List Nat → Nat
  | first :: last :: place :: rest =>
    if first ≤ code && code ≤ last then place else classAmong code rest
  | _ => 0

def combiningClass (c : Char) : Nat := classAmong c.toNat combiningRuns

def viramaClass : Nat := 9

def compose (base mark : Char) : Bool :=
  match composingBounds.lookup mark.toNat with
  | some bounds => Text.inRanges bounds base
  | none => false

/-- Whether no character combines with one before it and all marks are in order; `base` is the last
character that is no mark, and `place` the class of the one before. -/
def isComposed (base : Option Char) (place : Nat) : List Char → Bool
  | [] => true
  | c :: rest =>
    let own := combiningClass c
    let meets := place = 0 || place < own
    !(own != 0 && own < place) && !(meets && base.any fun b => compose b c) &&
      if own = 0 then isComposed (some c) 0 rest else isComposed base own rest

def isDigitFrom (first : Nat) (c : Char) : Bool := first ≤ c.toNat && c.toNat < first + 10

def arabicZeros : Nat × Nat := (0x660, 0x6F0)

def leadsTo (bounds : List Nat) (cs : List Char) : Bool :=
  (cs.find? fun c => Direction.of c != .mark).any fun c => Text.inRanges bounds c

/-- Whether a character stands behind a sign that kills a vowel; `before` holds those before it, the
last one first. -/
def followsVirama (before : List Char) : Bool :=
  before.head?.any fun b => combiningClass b = viramaClass

def partsJoined (before behind : List Char) : Bool :=
  leadsTo joinedBehindBounds before && leadsTo joinedBeforeBounds behind

def fits (cs before behind : List Char) (c : Char) : Bool :=
  let (row, otherRow) := arabicZeros
  if Text.inRanges nameBounds c then true
  else if c == '\u00b7' then before.head? = some 'l' && behind.head? = some 'l'
  else if c == '\u0375' then behind.head?.any fun c => Text.inRanges greekBounds c
  else if c == '\u05f3' || c == '\u05f4' then
    before.head?.any fun c => Text.inRanges hebrewBounds c
  else if c == '\u30fb' then cs.any fun c => Text.inRanges japaneseBounds c
  else if isDigitFrom row c then !cs.any (isDigitFrom otherRow)
  else if isDigitFrom otherRow c then !cs.any (isDigitFrom row)
  else if c == '\u200c' then followsVirama before || partsJoined before behind
  else if c == '\u200d' then followsVirama before
  else false

def allFit (cs before : List Char) : List Char → Bool
  | [] => true
  | c :: rest => fits cs before rest c && allFit cs (c :: before) rest

/-- Whether hyphens stand at neither end of a part, and not both third and fourth. -/
def hyphensFit (cs : List Char) : Bool :=
  (cs.drop 2).take 2 != ['-', '-'] && cs.head? != some '-' && cs.getLast? != some '-'

def nameLimit : Nat := 254

def partLimit : Nat := 63

def isPart (cs : List Char) : Bool :=
  !cs.isEmpty && cs.length ≤ nameLimit && isComposed none 0 cs && hyphensFit cs &&
    !cs.head?.any (fun c => Text.inRanges markBounds c) && allFit cs [] cs && runsAsOne cs

def asciiMark : List Char := "xn--".toList

/-- Whether a part in ASCII, or the part that it stands for, is one that a name may have. -/
def isAsciiPart (cs : List Char) : Bool :=
  if asciiMark.isPrefixOf cs then
    let form := cs.drop asciiMark.length
    form.getLast? != some '-' && !form.isEmpty && (Punycode.decode form).any isPart
  else isPart cs

def asciiPart? (cs : List Char) : Option (List Char) :=
  let form :=
    if cs.all fun c => c.toNat < Punycode.firstCode then
      if isAsciiPart cs then some cs else none
    else if isPart cs then some (asciiMark ++ Punycode.encode cs)
    else none
  form.filter fun form => form.length ≤ partLimit

def dots : List Char := ['.', '\u3002', '\uff0e', '\uff61']

/-- The form of a name in ASCII; the part behind a dot at its end is empty. -/
def asciiName? (cs : List Char) : Option (List Char) := do
  let parts := (cs.map fun c => if dots.contains c then '.' else c).splitOn '.'
  let ended := parts.getLast? = some []
  let inner := if ended then parts.dropLast else parts
  if inner.isEmpty || nameLimit < cs.length then none
  let forms ← inner.mapM asciiPart?
  let name := ['.'].intercalate (if ended then forms ++ [[]] else forms)
  if name.length < nameLimit + (if ended then 1 else 0) then return name else none

end LabelPress.Address
