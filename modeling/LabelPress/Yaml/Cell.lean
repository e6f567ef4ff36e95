import LabelPress.Yaml.Merge
import LabelPress.Yaml.Scalar

/-!
# What nodes stand for

A node becomes a cell: a scalar, or a collection of further nodes. Collections start out empty and
get their parts one after the other, in the order in which they were met; so of two faults in a
document the one that is nested less deep is told, and of those at one depth the first.
-/

namespace LabelPress.Yaml

/-- What a node stands for; the parts of a collection are told by their nodes. -/
inductive Cell where
  | scalar (s : Scalar)
  | list (items : List NodeId)
  | pairs (items : List (NodeId × NodeId))
  | mapping (entries : List (Scalar × NodeId))
  | set (members : List Scalar)

/-- The cells of nodes, as far as they are known. -/
structure Cells where
  nodes : Nodes
  cells : Array (Option Cell)
  /-- The collections that wait for their parts, the last first. -/
  waiting : List NodeId := []

abbrev Building := StateT Cells (Except Stop)

namespace Building

def node (id : NodeId) : Building Node := do
  match (← get).nodes[id]? with
  | some n => return n
  | none => throw .malformed

def setCell (id : NodeId) (cell : Cell) : Building Unit :=
  modify fun s => { s with cells := s.cells.setIfInBounds id (some cell) }

def await (id : NodeId) (empty : Cell) : Building Unit := do
  setCell id empty
  modify fun s => { s with waiting := id :: s.waiting }

/-- The text of a node. That of a mapping is the text of its key `=`. -/
def text (id : NodeId) : Nat → Building Text
  | 0 => throw (.content (.tag .endless))
  | fuel + 1 => do
    match (← node id).content with
    | .scalar text => return text
    | .sequence _ => throw .malformed
    | .mapping entries =>
      match ← entries.findM? fun entry => return (← node entry.1).tag == .value with
      | some (_, value) => text value fuel
      | none => throw .malformed

def scalar (tag : Tag) (id : NodeId) (text : Text) : Building Scalar := do
  let checked (x : Except Fault Scalar) : Building Scalar := liftM (x.mapError Stop.content)
  match tag with
  | .null => return .null
  | .bool => checked ((boolOf text).map .bool)
  | .integer => checked ((integerOf text).map fun n => .number (.int n))
  | .real => checked ((realOf text).map fun x => .number (.real x))
  | .bytes =>
    match ((Text.chars? text).filter (·.all (·.toNat < 0x80))).bind Text.Base64.decode with
    | some bytes => return .bytes bytes
    | none => throw .malformed
  | .timestamp =>
    match (← node id).content with
    | .scalar _ => checked (timestampOf text)
    | _ => throw (.content (.textExpected "list"))
  | _ => return .text text

def construct (id : NodeId) : Building Unit := do
  if ((← get).cells[id]?.join).isSome then return
  let tag := (← node id).tag
  match tag with
  | .sequence => await id (.list [])
  | .pairs => await id (.pairs [])
  | .mapping => await id (.mapping [])
  | .set => await id (.set [])
  | .merge | .value | .unknown => throw .malformed
  | tag =>
    let text ← text id (← get).nodes.size
    setCell id (.scalar (← scalar tag id text))

def key (id : NodeId) : Building Scalar := do
  construct id
  match (← get).cells[id]?.join with
  | some (.scalar s) => return s
  | _ => throw .malformed

def insert (key : Scalar) (value : NodeId) :
    List (Scalar × NodeId) → List (Scalar × NodeId)
  | [] => [(key, value)]
  | (k, v) :: rest =>
    if k.same key then (k, value) :: rest else (k, v) :: insert key value rest

def mappingEntries (id : NodeId) : Building (List (Scalar × NodeId)) := do
  match (← node id).content with
  | .mapping _ => pure ()
  | _ => throw .malformed
  let (_, nodes) ← ((Rewriting.merge id).run (← get).nodes : Except Stop _)
  modify fun s => { s with nodes }
  match (← node id).content with
  | .mapping entries => entries.foldlM (fun found (k, v) => do
      let k ← key k
      construct v
      return insert k v found) []
  | _ => throw .malformed

def pairOf (id : NodeId) : Building (NodeId × NodeId) := do
  match (← node id).content with
  | .mapping [(first, second)] =>
    construct first
    construct second
    return (first, second)
  | _ => throw .malformed

def sequenceItems (id : NodeId) : Building (List NodeId) := do
  match (← node id).content with
  | .sequence items => return items
  | _ => throw .malformed

def complete (id : NodeId) : Building Unit := do
  match (← node id).tag with
  | .sequence =>
    let items ← sequenceItems id
    items.forM construct
    setCell id (.list items)
  | .pairs => setCell id (.pairs (← (← sequenceItems id).mapM pairOf))
  | .mapping => setCell id (.mapping (← mappingEntries id))
  | .set => setCell id (.set ((← mappingEntries id).map (·.1)))
  | _ => throw .malformed

/-- Gives the waiting collections their parts, and then those that started to wait meanwhile. -/
def completeAll : Nat → Building Unit
  | 0 => throw .malformed
  | fuel + 1 => do
    let waiting := (← get).waiting.reverse
    if waiting.isEmpty then return
    modify fun s => { s with waiting := [] }
    waiting.forM complete
    completeAll fuel

def document (root : NodeId) : Building Unit := do
  construct root
  completeAll ((← get).nodes.size + 1)

end Building

def Cells.ofNodes (nodes : Nodes) (root : NodeId) : Except Stop (Array (Option Cell)) := do
  let (_, s) ← (Building.document root).run { nodes, cells := Array.replicate nodes.size none }
  return s.cells

end LabelPress.Yaml
