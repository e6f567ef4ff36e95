import LabelPress.Text.CaseTable
import LabelPress.Text.Ranges

/-!
# Upper and lower case

The full case mappings of Unicode, which may turn one letter into several. The one mapping that
looks at its neighbours is that of the capital sigma: at the end of a word it becomes the final
sigma.
-/

namespace LabelPress.Text

def mapByRuns : List Nat → Nat → Option Nat
  | first :: last :: step :: image :: rest, n =>
    if first ≤ n && n ≤ last && (n - first) % step == 0 then some (image + (n - first))
    else mapByRuns rest n
  | _, _ => none

/-- Whether `c` is a letter with case that can end or start a word. -/
def isCased (c : CodePoint) : Bool := inRanges casedBounds c

/-- Whether `c` is passed over when the ends of a word are looked for. -/
def isCaseIgnorable (c : CodePoint) : Bool := inRanges caseIgnorableBounds c

def meetsCased (t : Text) : Bool :=
  match t.dropWhile isCaseIgnorable with
  | [] => false
  | c :: _ => isCased c

def lowerChar (c : CodePoint) : Text :=
  if c.toNat == 0x130 then ['i', Char.ofNat 0x307]
  else match mapByRuns lowerRuns c.toNat with
    | some n => [.ofNat n]
    | none => [c]

def lowerFrom (before : Text) : Text → Text
  | [] => []
  | c :: rest =>
    let here : Text :=
      if c.toNat == 0x3A3 then
        if meetsCased before && !meetsCased rest then ['ς'] else ['σ']
      else lowerChar c
    here ++ lowerFrom (c :: before) rest

def lower (t : Text) : Text := lowerFrom [] t

def upperChar (c : CodePoint) : Text :=
  match upperExpansions.lookup c.toNat with
  | some ns => ns.map .ofNat
  | none => match mapByRuns upperRuns c.toNat with
    | some n => [.ofNat n]
    | none => [c]

def upper (t : Text) : Text := t.flatMap upperChar

end LabelPress.Text
