import LabelPress.Address.Name
import LabelPress.Address.Percent
import LabelPress.Fault
import LabelPress.Numeral.Digits

/-!
# Hosts

A host is named by four numbers, by groups of hexadecimal digits in square brackets, or by a name.
-/

namespace LabelPress.Address

def isAny (c : CodePoint) : Bool := c != '\n'

/-- The states that a character leads to from those of a reader of numbers with any character
between two: in an even state a number is due, and in an odd one it has begun. -/
def numberStates (states : List Nat) (c : CodePoint) : List Nat :=
  let isDigit := c.char?.any Text.isAsciiDigit
  (states.flatMap fun s =>
    if s % 2 = 0 then if isDigit then [s + 1] else []
    else
      (if isDigit then [s] else []) ++
        if s < 7 && isAny c then [s + 1] else []).eraseDups

def looksNumbered (t : Text) : Bool := (t.foldl numberStates [0]).contains 7

def isOctet (cs : List Char) : Bool :=
  !cs.isEmpty && cs.length ≤ 3 && cs.all Text.isAsciiDigit &&
    (cs.length = 1 || cs.head? != some '0') &&
    (Numeral.value? 10 0 cs).any (· ≤ 255)

def isFourNumbers (cs : List Char) : Bool :=
  let parts := cs.splitOn '.'
  parts.length = 4 && parts.all isOctet

def isGroup (cs : List Char) : Bool :=
  !cs.isEmpty && cs.length ≤ 4 && cs.all fun c => (Text.hexValue? c).isSome

/-- The groups of a text, of which the last may be four numbers that stand for two. -/
def groupsOf (cs : List Char) : Option (List (List Char)) :=
  let parts := cs.splitOn ':'
  let last := parts.getLast?.getD []
  if last.contains '.' then
    if isFourNumbers last then some (parts.dropLast ++ [['0'], ['0']]) else none
  else some parts

/-- Whether groups are eight, or fewer with one gap. The gap is an empty group within, and next to
it the first or the last group may be empty too. -/
def areGroups (parts : List (List Char)) : Bool :=
  let count := parts.length
  let inner := (parts.drop 1).dropLast
  let gaps := inner.countP (·.isEmpty)
  let firstEmpty := parts.head? = some []
  let lastEmpty := parts.getLast? = some []
  if count < 3 || 9 < count || 1 < gaps then false
  else if gaps = 1 then
    let before := (inner.takeWhile (!·.isEmpty)).length + 1
    let behind := count - before - 1
    let keptBefore := if firstEmpty then before - 1 else before
    let keptBehind := if lastEmpty then behind - 1 else behind
    (!firstEmpty || keptBefore = 0) && (!lastEmpty || keptBehind = 0) &&
      keptBefore + keptBehind < 8 && parts.all fun g => g.isEmpty || isGroup g
  else count = 8 && parts.all isGroup

/-- Whether a text is an address of groups, with the name of a scope behind a percent sign or
without. -/
def isGrouped (t : Text) : Bool :=
  let groups := t.takeWhile (· != .char '%')
  let scopeFits := match t.drop groups.length with
    | [] => true
    | _ :: scope => !scope.isEmpty && !scope.contains '%'
  scopeFits && !t.contains '/' && ((Text.chars? groups).bind groupsOf).any areGroups

def hostOf (t : Text) : Except Fault Text := do
  let invalid (kind : Text) : Except Fault Text := throw (.address (.host kind (Text.quoted t)))
  if t.isEmpty then return []
  else if looksNumbered t then
    if (Text.chars? t).any isFourNumbers then return t else invalid "IPv4 address"
  else if t.head? = some (.char '[') && t.getLast? = some (.char ']') && 1 < t.length then
    let inside := (t.drop 1).dropLast
    if isGrouped inside then return inside else invalid "IPv6 address"
  else if t.all fun c => c.toNat < Punycode.firstCode then
    (quoted inHost (Text.lower t)).mapError .unencodable
  else match (Text.chars? (Text.lower t)).bind asciiName? with
    | some name => return .ofChars name
    | none => invalid "IDNA hostname"

end LabelPress.Address
