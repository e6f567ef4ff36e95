import LabelPress.Yaml.Scan
import LabelPress.Yaml.Tag

/-!
# Nodes

What the tokens of a text describe: scalars, sequences and mappings, each with its type. An alias
stands for the node with that anchor, which may be a collection that holds the alias; so nodes have
numbers, in the order in which they start, and a collection knows its parts by their numbers.
-/

namespace LabelPress.Yaml

abbrev NodeId := Nat

inductive Content where
  | scalar (text : Text)
  | sequence (items : List NodeId)
  | mapping (entries : List (NodeId × NodeId))
  deriving DecidableEq

structure Node where
  tag : Tag
  content : Content

abbrev Nodes := Array Node

namespace Node

structure Progress where
  tokens : List Token
  /-- The meanings of the handles of tags. -/
  handles : List (String × String)
  /-- The anchors met. -/
  anchors : List (String × NodeId) := []
  nodes : Nodes := #[]

abbrev Reader := StateT Progress (Except Stop)

def refuse : Reader α := throw .malformed

def peek : Reader (Option Token) := do
  match (← get).tokens with
  | [] => return none
  | .fault fault :: _ => throw fault
  | t :: _ => return some t

def skip : Reader Unit := modify fun p => { p with tokens := p.tokens.drop 1 }

def sees (ts : List Token) : Reader Bool := do
  match ← peek with
  | some t => return ts.contains t
  | none => return false

def anchor? : Reader (Option String) := do
  match ← peek with
  | some (.anchor name) => skip; return some name
  | _ => return none

def tag? : Reader (Option String) := do
  match ← peek with
  | some (.tag name) =>
    skip
    match name.handle with
    | none => return some name.suffix
    | some handle => match (← get).handles.lookup handle with
      | some lead => return some (lead ++ name.suffix)
      | none => refuse
  | _ => return none

def properties : Reader (Option String × Option String) := do
  match ← anchor? with
  | some name => return (some name, ← tag?)
  | none =>
    let tag ← tag?
    match tag with
    | none => return (none, none)
    | some _ => return (← anchor?, tag)

def openTag : String := "!"

def collectionTag (tag : Option String) (default : Tag) : Tag :=
  match tag with
  | none => default
  | some name => if name = openTag then default else .ofName name

def scalarTag (tag : Option String) (text : Text) (plain : Bool) : Tag :=
  match tag with
  | none => if plain then .ofPlain text else .text
  | some name => if name = openTag then .ofPlain text else .ofName name

/-- Adds a node with an anchor, if it has one; no two nodes have the same. -/
def add (anchor : Option String) (tag : Tag) (content : Content) : Reader NodeId := do
  let id := (← get).nodes.size
  if let some name := anchor then
    if ((← get).anchors.lookup name).isSome then refuse
    modify fun p => { p with anchors := (name, id) :: p.anchors }
  modify fun p => { p with nodes := p.nodes.push ⟨tag, content⟩ }
  return id

def fill (id : NodeId) (content : Content) : Reader NodeId := do
  modify fun p => { p with nodes := p.nodes.modify id fun n => { n with content } }
  return id

def missing : Reader NodeId := add none .null (.scalar "")

def ofAlias (name : String) : Reader NodeId := do
  match (← get).anchors.lookup name with
  | some id => return id
  | none => refuse

mutual

/-- The next node. In a `block` it may be a block of its own, and where `items` holds also items
that are no further indented than their key. -/
def node (block items : Bool) : Nat → Reader NodeId
  | 0 => refuse
  | fuel + 1 => do
    if let some (.alias name) ← peek then
      skip
      return ← ofAlias name
    let (anchor, tag) ← properties
    let sequence (read : Reader (List NodeId)) : Reader NodeId := do
      let id ← add anchor (collectionTag tag .sequence) (.sequence [])
      fill id (.sequence (← read))
    let mapping (read : Reader (List (NodeId × NodeId))) : Reader NodeId := do
      let id ← add anchor (collectionTag tag .mapping) (.mapping [])
      fill id (.mapping (← read))
    match ← peek with
      | some .blockEntry =>
        if items then sequence (looseItems fuel) else bare anchor tag
      | some (.scalar text plain) => do
        skip
        add anchor (scalarTag tag text plain) (.scalar text)
      | some .flowSequence => sequence do
        skip
        flowItems true fuel
      | some .flowMapping => mapping do
        skip
        flowEntries true fuel
      | some .blockSequence =>
        if block then sequence do
          skip
          blockItems fuel
        else bare anchor tag
      | some .blockMapping =>
        if block then mapping do
          skip
          blockEntries fuel
        else bare anchor tag
      | _ => bare anchor tag
where
  /-- The node of properties without content. -/
  bare (anchor tag : Option String) : Reader NodeId :=
    if anchor.isSome || tag.isSome then add anchor (scalarTag tag "" true) (.scalar "")
    else refuse

/-- The node up to one of the tokens `ends`; none may come at all. -/
def nodeBefore (ends : List Token) (block items : Bool) : Nat → Reader NodeId
  | 0 => refuse
  | fuel + 1 => do if ← sees ends then missing else node block items fuel

def blockItems : Nat → Reader (List NodeId)
  | 0 => refuse
  | fuel + 1 => do
    if ← sees [.blockEntry] then
      skip
      let item ← nodeBefore [.blockEntry, .blockEnd] true false fuel
      return item :: (← blockItems fuel)
    if ← sees [.blockEnd] then
      skip
      return []
    refuse

def looseItems : Nat → Reader (List NodeId)
  | 0 => refuse
  | fuel + 1 => do
    if ← sees [.blockEntry] then
      skip
      let item ← nodeBefore [.blockEntry, .key, .value, .blockEnd] true false fuel
      return item :: (← looseItems fuel)
    return []

def blockEntries : Nat → Reader (List (NodeId × NodeId))
  | 0 => refuse
  | fuel + 1 => do
    if ← sees [.key] then
      skip
      let key ← nodeBefore [.key, .value, .blockEnd] true true fuel
      let value ←
        if ← sees [.value] then do
          skip
          nodeBefore [.key, .value, .blockEnd] true true fuel
        else missing
      return (key, value) :: (← blockEntries fuel)
    if ← sees [.blockEnd] then
      skip
      return []
    refuse

def comma (first : Bool) : Nat → Reader Unit
  | 0 => refuse
  | _ + 1 => do
    if first then return
    if ← sees [.flowEntry] then skip else refuse

/-- The items between square brackets. An entry of a mapping is an item too. -/
def flowItems (first : Bool) : Nat → Reader (List NodeId)
  | 0 => refuse
  | fuel + 1 => do
    if ← sees [.flowSequenceEnd] then
      skip
      return []
    comma first fuel
    if ← sees [.flowSequenceEnd] then
      skip
      return []
    let item ←
      if ← sees [.key] then do
        let id ← add none .mapping (.mapping [])
        let entry ← flowEntry .flowSequenceEnd fuel
        fill id (.mapping [entry])
      else node false false fuel
    return item :: (← flowItems false fuel)

def flowEntry (last : Token) : Nat → Reader (NodeId × NodeId)
  | 0 => refuse
  | fuel + 1 => do
    skip
    let key ← nodeBefore [.value, .flowEntry, last] false false fuel
    if ← sees [.value] then
      skip
      return (key, ← nodeBefore [.flowEntry, last] false false fuel)
    return (key, ← missing)

/-- The entries between curly brackets. A key may be alone. -/
def flowEntries (first : Bool) : Nat → Reader (List (NodeId × NodeId))
  | 0 => refuse
  | fuel + 1 => do
    if ← sees [.flowMappingEnd] then
      skip
      return []
    comma first fuel
    if ← sees [.flowMappingEnd] then
      skip
      return []
    let entry ←
      if ← sees [.key] then flowEntry .flowMappingEnd fuel
      else do pure (← node false false fuel, ← missing)
    return entry :: (← flowEntries false fuel)

end

/-- The meanings of handles where no directive gives them another. -/
def standardHandles : List (String × String) := [("!", "!"), ("!!", Tag.nameSpace)]

def directives (version : Bool) : Nat → Reader Unit
  | 0 => refuse
  | fuel + 1 => do
    match ← peek with
    | some (.version major) =>
      if version || major ≠ 1 then refuse
      skip
      directives true fuel
    | some (.handle handle lead) =>
      if ((← get).handles.lookup handle).isSome then refuse
      modify fun p => { p with handles := (handle, lead) :: p.handles }
      skip
      directives version fuel
    | some .directive =>
      skip
      directives version fuel
    | _ => return

def seesDirective : Reader Bool := do
  match ← peek with
  | some (.version _) | some (.handle _ _) | some .directive => return true
  | _ => return false

def documentEnds : Nat → Reader Unit
  | 0 => refuse
  | fuel + 1 => do
    if ← sees [.documentEnd] then
      skip
      documentEnds fuel

def announcedRoot (fuel : Nat) : Reader NodeId := do
  if (← seesDirective) || (← sees [.documentStart, .documentEnd]) || (← peek).isNone then
    return ← missing
  node true false fuel

def document (fuel : Nat) : Reader (Option NodeId) := do
  if (← peek).isNone then return none
  let announced := (← seesDirective) || (← sees [.documentStart])
  if announced then
    directives false fuel
    if ← sees [.documentStart] then skip else refuse
  modify fun p => { p with handles := p.handles ++ standardHandles }
  let root ← if announced then announcedRoot fuel else node true false fuel
  documentEnds fuel
  if (← peek).isSome then refuse
  return some root

def ofTokens? (tokens : List Token) : Except Stop (Option (Nodes × NodeId)) := do
  let (root, p) ← (document (4 * tokens.length + 8)).run { tokens, handles := [] }
  return root.map fun id => (p.nodes, id)

end Node
end LabelPress.Yaml
