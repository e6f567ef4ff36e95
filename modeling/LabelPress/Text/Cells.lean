import LabelPress.Text.CellWidth

/-!
# Texts in cells

On a terminal a text falls into clusters: a character with the marks and joined characters behind
it. A selector behind a character asks for its emoji form, which may be wider. Lines are cut between
clusters.
-/

namespace LabelPress.Text

def joiner : Char := '\u200d'

def emojiSelector : Char := '\ufe0f'

structure Cluster where
  points : Text
  cells : Nat

structure Clustering where
  clusters : List Cluster := []
  /-- Whether the next character belongs to the last cluster. -/
  joined : Bool := false
  /-- Whether the last cluster would be wider in its emoji form. -/
  widens : Bool := false

namespace Clustering

/-- The clusters with a character put to the last one, which grows by some cells. -/
def extended (s : Clustering) (c : CodePoint) (cells : Nat) : List Cluster :=
  match s.clusters with
  | last :: rest => ⟨last.points ++ [c], last.cells + cells⟩ :: rest
  | [] => [⟨[c], 0⟩]

def add (s : Clustering) (c : CodePoint) : Clustering :=
  if s.joined then { s with clusters := s.extended c 0, joined := false }
  else if c == joiner then
    { s with clusters := s.extended c 0, joined := !s.clusters.isEmpty }
  else if c == emojiSelector then
    { s with clusters := s.extended c (if s.widens then 1 else 0), widens := false }
  else
    let cells := cellWidth c
    if cells = 0 then { s with clusters := s.extended c 0 }
    else { clusters := ⟨[c], cells⟩ :: s.clusters, widens := inRanges widenedBounds c }

end Clustering

def clusters (t : Text) : List Cluster :=
  (t.foldl Clustering.add {}).clusters.reverse

def cells (t : Text) : Nat := (clusters t).foldl (fun n k => n + k.cells) 0

def fill (width : Nat) : Text → Nat → List Cluster → List Text
  | current, used, [] => if used = 0 then [] else [current]
  | current, used, k :: rest =>
    if used + k.cells ≤ width then fill width (current ++ k.points) (used + k.cells) rest
    else current :: fill width k.points k.cells rest

def chop (width : Nat) (t : Text) : List Text := fill width [] 0 (clusters t)

/-- What fits of clusters into `width` cells, with a space in the place of half a wide one. -/
def fit : Nat → List Cluster → Text
  | _, [] => []
  | width, k :: rest =>
    if width = 0 then []
    else if k.cells ≤ width then k.points ++ fit (width - k.cells) rest
    else [' ']

def crop (width : Nat) (t : Text) : Text :=
  if cells t ≤ width then t else fit width (clusters t)

def padded (width : Nat) (t : Text) : Text :=
  t ++ spaces (width - cells t)

end LabelPress.Text
