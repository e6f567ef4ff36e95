import LabelPress.Text.Basic

/-!
# How alike texts are

Two texts share their longest common run of characters, and whatever the texts before that run and
those behind it share in turn. They are alike if most of their characters are shared.
-/

namespace LabelPress.Text

def sharedStart : Text → Text → Nat
  | c :: cs, d :: ds => if c = d then sharedStart cs ds + 1 else 0
  | _, _ => 0

structure SharedRun where
  left : Nat
  right : Nat
  length : Nat

/-- The longest shared run; of several the first in the left text, and of these the first in the
right one. -/
def longestRun (cs ds : Text) : SharedRun :=
  let runs := (List.range cs.length).flatMap fun i =>
    (List.range ds.length).map fun j => ⟨i, j, sharedStart (cs.drop i) (ds.drop j)⟩
  runs.foldl (fun best run => if best.length < run.length then run else best) ⟨0, 0, 0⟩

/-- How many characters two texts share; `fuel` bounds the number of runs between two others. -/
def sharedCount : Nat → Text → Text → Nat
  | 0, _, _ => 0
  | fuel + 1, cs, ds =>
    let run := longestRun cs ds
    if run.length = 0 then 0
    else run.length + sharedCount fuel (cs.take run.left) (ds.take run.right) +
      sharedCount fuel (cs.drop (run.left + run.length)) (ds.drop (run.right + run.length))

structure Likeness where
  name : String
  shared : Nat
  total : Nat

namespace Likeness

def of (word : Text) (name : String) : Likeness :=
  let cs := ofString name
  ⟨name, 2 * sharedCount cs.length cs word, cs.length + word.length⟩

def isClose (l : Likeness) : Bool := 3 * l.total ≤ 5 * l.shared

def leads (l m : Likeness) : Bool :=
  if l.shared * m.total = m.shared * l.total then m.name ≤ l.name
  else m.shared * l.total < l.shared * m.total

end Likeness

def closestLimit : Nat := 3

/-- Whether a name is not so much longer or shorter than a text that they cannot be close. -/
def sizesAllow (word : Text) (name : String) : Bool :=
  3 * (name.length + word.length) ≤ 10 * min name.length word.length

def closest (word : Text) (names : List String) : List String :=
  let near := ((names.filter (sizesAllow word)).map (Likeness.of word)).filter (·.isClose)
  (((near.mergeSort Likeness.leads).take closestLimit).map (·.name)).mergeSort

end LabelPress.Text
