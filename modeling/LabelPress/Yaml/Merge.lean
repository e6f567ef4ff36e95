import LabelPress.Yaml.Node

/-!
# Merging mappings

A key `<<` puts the entries of other mappings before those of its own mapping, which therefore have
precedence. A mapping may merge itself: each key `<<` is taken away before the mappings that it
names are looked at, so this comes to an end.
-/

namespace LabelPress.Yaml

abbrev Rewriting := StateT Nodes (Except Stop)

namespace Rewriting

def node (id : NodeId) : Rewriting Node := do
  match (← get)[id]? with
  | some n => return n
  | none => throw .malformed

def hasTag (tag : Tag) (id : NodeId) : Rewriting Bool := return (← node id).tag == tag

def entries (id : NodeId) : Rewriting (List (NodeId × NodeId)) := do
  match (← node id).content with
  | .mapping entries => return entries
  | _ => throw .malformed

def setEntries (id : NodeId) (entries : List (NodeId × NodeId)) : Rewriting Unit :=
  modify fun nodes => nodes.modify id fun n => { n with content := .mapping entries }

/-- The first entry with a key `<<`, and the entries without it. -/
def takeMerge? : List (NodeId × NodeId) →
    Rewriting (Option ((NodeId × NodeId) × List (NodeId × NodeId)))
  | [] => return none
  | entry :: rest => do
    if ← hasTag .merge entry.1 then return some (entry, rest)
    return (← takeMerge? rest).map fun (found, others) => (found, entry :: others)

def plainKey (id : NodeId) : Rewriting Unit := do
  if ← hasTag .value id then
    modify fun nodes => nodes.modify id fun n => { n with tag := .text }

mutual

/-- Merges into a mapping what its keys `<<` name; `merged` are the entries found so far. -/
def flatten (id : NodeId) (merged : List (NodeId × NodeId)) : Nat → Rewriting Unit
  | 0 => throw .malformed
  | fuel + 1 => do
    match ← takeMerge? (← entries id) with
    | some ((_, source), others) =>
      setEntries id others
      flatten id (merged ++ (← sources source fuel)) fuel
    | none =>
      let own ← entries id
      own.forM fun entry => plainKey entry.1
      setEntries id (merged ++ own)

/-- The entries that a value merges: those of a mapping, or of the mappings of a sequence, the last
first. -/
def sources (id : NodeId) : Nat → Rewriting (List (NodeId × NodeId))
  | 0 => throw .malformed
  | fuel + 1 => do
    match (← node id).content with
    | .mapping _ =>
      flatten id [] fuel
      entries id
    | .sequence items => return (← itemSources items fuel).reverse.flatten
    | .scalar _ => throw .malformed

def itemSources (items : List NodeId) : Nat → Rewriting (List (List (NodeId × NodeId)))
  | 0 => throw .malformed
  | fuel + 1 => do
    match items with
    | [] => return []
    | id :: rest =>
      discard (entries id)
      flatten id [] fuel
      let found ← entries id
      return found :: (← itemSources rest fuel)

end

def stepLimit (nodes : Nodes) : Nat :=
  nodes.foldl (fun n node => n + match node.content with
    | .scalar _ => 1
    | .sequence items => items.length + 2
    | .mapping entries => 3 * entries.length + 2) 4

/-- Merges into a mapping what its keys `<<` name. -/
def merge (id : NodeId) : Rewriting Unit := do
  flatten id [] (stepLimit (← get))

end Rewriting
end LabelPress.Yaml
