import LabelPress.Value.Members
import LabelPress.Yaml.Cell

/-!
# Values of documents

The value that a document stands for. A collection that holds itself is told as a loop: every
collection on the way from the root back to itself gets its node's number as a label, and where it
comes again only the label stands.
-/

namespace LabelPress.Yaml

variable [Host]

abbrev OpenValue := Value × List NodeId

def gathered (parts : List OpenValue) : List Value × List NodeId :=
  (parts.map (·.1), (parts.flatMap (·.2)).eraseDups)

def looped (id : NodeId) (body : Value) (labels : List NodeId) : OpenValue :=
  if labels.isEmpty then (body, []) else (.loop id body, labels.filter (· != id))

def valueOf (cells : Array (Option Cell)) (path : List NodeId) : Nat → NodeId → OpenValue
  | 0, _ => (.null, [])
  | fuel + 1, id =>
    let part (p : NodeId) : OpenValue := valueOf cells (id :: path) fuel p
    match cells[id]?.join with
    | none => (.null, [])
    | some (.scalar s) => (.scalar s, [])
    | some (.set members) => (.set (Members.arranged members), [])
    | some (.list items) =>
      if path.contains id then (.again id .list, [id])
      else
        let (values, labels) := gathered (items.map part)
        looped id (.list values) labels
    | some (.pairs items) =>
      if path.contains id then (.again id .list, [id])
      else
        let (firsts, labels) := gathered (items.map fun p => part p.1)
        let (seconds, others) := gathered (items.map fun p => part p.2)
        looped id (.list (List.zipWith Value.pair firsts seconds)) (labels ++ others)
    | some (.mapping entries) =>
      if path.contains id then (.again id .mapping, [id])
      else
        let (values, labels) := gathered (entries.map fun e => part e.2)
        looped id (.mapping (List.zip (entries.map (·.1)) values)) labels

/-- The value that a text stands for; an empty text is a null. -/
def read (text : Text) : Except Stop Value := do
  match ← Node.ofTokens? (tokensOf text) with
  | none => return .null
  | some (nodes, root) =>
    let cells ← Cells.ofNodes nodes root
    return (valueOf cells [] (nodes.size + 1) root).1

def Stop.toReadFault (text : Text) : Stop → ReadFault
  | malformed => .broken (.yaml (Host.complaint text))
  | content fault => .content fault

/-- The value of a text, or why it has none. As in JSON, nodes may be nested to any depth. -/
def parse (text : Text) : Except ReadFault Value :=
  (read text).mapError (Stop.toReadFault text)

end LabelPress.Yaml
