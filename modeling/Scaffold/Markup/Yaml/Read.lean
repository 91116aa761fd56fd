import Scaffold.Markup.Yaml.Node
import Scaffold.Markup.Yaml.Scalar

/-!
# YAML

* `Yaml.read`: the value of a YAML text, null if it is empty.

Values are made level by level. A scalar has its value as soon as it is met; a collection waits until those
met before it are open. So of several values that cannot be made, the one of the outermost level is
reported. When a mapping is opened, its merge keys give way to the entries of the mappings merged.

A node that is met again keeps the value that it has, also inside of itself.
-/
namespace Scaffold.Markup.Yaml

/-- What is known of the value of a node. -/
inductive Form where
  /-- Nothing: the node was not met. -/
  | unmet
  /-- The node is a collection that is not open. -/
  | waiting
  | scalar (value : Value)
  | list (items : List NodeId)
  | pairs (items : List (NodeId × NodeId))
  | mapping (entries : List (Value × NodeId))
  | set (items : List Value)
  deriving Inhabited

/-- The nodes, what is known of their values, and the collections met so far. There were never more merge keys
than entries at the start. -/
structure Maker where
  nodes : Graph
  forms : Array Form
  met : Array NodeId := #[]
  entryCount : Nat

/-- A step of making values. -/
abbrev Make := StateT Maker (Except Fault)

/-- Refuses a node. -/
def unfit {α : Type} (detail : String) : Make α := fun _ => .error (.malformed detail)

/-- The node with some number. -/
def nodeAt (id : NodeId) : Make Node := return (← get).nodes.getD id default

/-- Records what is known of the value of a node. -/
def setForm (id : NodeId) (form : Form) : Make Unit :=
  modify fun m => { m with forms := m.forms.setIfInBounds id form }

/-! ## Merge keys -/

/-- Gives a mapping other entries. -/
def setEntries (id : NodeId) (entries : List (NodeId × NodeId)) : Make Unit :=
  modify fun m => { m with
    nodes := m.nodes.modify id fun n => { n with content := .mapping entries } }

/-- The entries of a mapping. -/
def entriesAt (id : NodeId) : Make (List (NodeId × NodeId)) := do
  match (← nodeAt id).content with
  | .mapping entries => return entries
  | _ => return []

/-- Takes the first merge key at or after a position out of a mapping: its position and its value, if there
is one. The default keys before it become texts. -/
def takeMerge (id : NodeId) (position : Nat) : Make (Option (Nat × NodeId)) := do
  let m ← get
  let kindOf (entry : NodeId × NodeId) : Kind := (m.nodes.getD entry.1 default).kind
  let entries ← entriesAt id
  let before := (entries.drop position).takeWhile fun entry => kindOf entry != .merge
  for entry in before do
    if kindOf entry == .default then
      modify fun m => { m with nodes := m.nodes.modify entry.1 fun n => { n with kind := .text } }
  let position := position + before.length
  match entries[position]? with
  | none => return none
  | some entry =>
    setEntries id (entries.eraseIdx position)
    return some (position, entry.2)

/-- Replaces the merge keys of a mapping at or after a position by the entries that they bring, those of
`merged` among them, all of which come first. Each step takes one merge key out. -/
def flattenFrom (id : NodeId) (position : Nat) (merged : List (NodeId × NodeId)) : Nat → Make Unit
  | 0 => return ()
  | fuel + 1 => do
    match ← takeMerge id position with
    | none =>
      if !merged.isEmpty then setEntries id (merged ++ (← entriesAt id))
    | some (position, source) =>
      match (← nodeAt source).content with
      | .mapping _ =>
        flattenFrom source 0 [] fuel
        flattenFrom id position (merged ++ (← entriesAt source)) fuel
      | .sequence items =>
        let found ← items.mapM fun item => do
          match (← nodeAt item).content with
          | .mapping _ =>
            flattenFrom item 0 [] fuel
            entriesAt item
          | _ => unfit "expected a mapping for merging"
        flattenFrom id position (merged ++ found.reverse.flatten) fuel
      | .scalar _ => unfit "expected a mapping or list of mappings for merging"

/-- Replaces the merge keys of a mapping by the entries that they bring. -/
def flatten (id : NodeId) : Make Unit := do
  flattenFrom id 0 [] ((← get).entryCount + 1)

/-! ## Making values -/

/-- The text of a scalar, or of the scalar at the default key of a mapping. -/
def scalarText (id : NodeId) : Nat → Make String
  | 0 => fun _ => .error (.unreadable (.tooDeep ""))
  | fuel + 1 => do
    let m ← get
    match (← nodeAt id).content with
    | .scalar text => return text
    | .sequence _ => unfit "expected a scalar node"
    | .mapping entries =>
      match entries.find? fun entry => (m.nodes.getD entry.1 default).kind == .default with
      | some entry => scalarText entry.2 fuel
      | none => unfit "expected a scalar node"

/-- The value of a node that is no collection. -/
def scalarAt (id : NodeId) : Make Value := do
  let n ← nodeAt id
  if n.kind == .unknown || n.kind == .merge || n.kind == .default then unfit "unknown tag"
  else
    let text ← scalarText id ((← get).nodes.size + 1)
    match n.kind, n.content with
    | .timestamp, .mapping _ => fun _ => .error (.unreadable .noTimeText)
    | kind, _ => fun m => (kind.value text).map fun v => (v, m)

/-- Meets a node: a scalar has its value from now on, and a collection waits. -/
def meetNode (id : NodeId) : Make Unit := do
  match (← get).forms.getD id .unmet with
  | .unmet =>
    if (← nodeAt id).kind.isCollection then
      setForm id .waiting
      modify fun m => { m with met := m.met.push id }
    else setForm id (.scalar (← scalarAt id))
  | _ => return ()

/-- The value of a key. -/
def keyAt (id : NodeId) : Make Value := do
  meetNode id
  match (← get).forms.getD id .unmet with
  | .scalar v => return v
  | _ => unfit "found unhashable key"

/-- Whether a scalar is the written word for what is not a number. That has one value, and is the same key
wherever it stands, although it is equal to no number. -/
def isNanWord (n : Node) : Bool :=
  match n.kind, n.content with
  | .float, .scalar text => unsigned (Text.lower (withoutLines text.toList)) == nanText
  | _, _ => false

/-- An entry of a mapping that is being opened: the node of its key, the key, and the node of its value. -/
structure Entry where
  keyNode : NodeId
  key : Value
  value : NodeId

/-- Puts an entry: its key keeps its place if it is there, else it comes last. -/
def Entry.put (isSame : Entry → Entry → Bool) (entry : Entry) : List Entry → List Entry
  | [] => [entry]
  | e :: rest =>
    if isSame e entry then { e with value := entry.value } :: rest else e :: Entry.put isSame entry rest

/-- Whether the keys of two entries are the same. -/
def Entry.sameKey (nodes : Graph) (a b : Entry) : Bool :=
  let isNan (e : Entry) : Bool := isNanWord (nodes.getD e.keyNode default)
  a.keyNode == b.keyNode || a.key.sameKey b.key || isNan a && isNan b

/-- Meets the parts of a mapping, without its merge keys. -/
def openMapping (id : NodeId) : Make (List Entry) := do
  match (← nodeAt id).content with
  | .mapping _ =>
    flatten id
    let found ← (← entriesAt id).mapM fun entry => do
      let key ← keyAt entry.1
      meetNode entry.2
      return ({ keyNode := entry.1, key := key, value := entry.2 } : Entry)
    let nodes := (← get).nodes
    return found.foldl (fun entries entry => entry.put (Entry.sameKey nodes) entries) []
  | _ => unfit "expected a mapping"

/-- Meets the parts of a list. -/
def openList (id : NodeId) : Make (List NodeId) := do
  match (← nodeAt id).content with
  | .sequence items =>
    items.forM meetNode
    return items
  | _ => unfit "expected a sequence"

/-- Meets the parts of a list of pairs, each a mapping with one entry. -/
def openPairs (id : NodeId) : Make (List (NodeId × NodeId)) := do
  match (← nodeAt id).content with
  | .sequence items =>
    items.mapM fun item => do
      match (← nodeAt item).content with
      | .mapping [entry] =>
        meetNode entry.1
        meetNode entry.2
        return entry
      | _ => unfit "expected a mapping of length 1"
  | _ => unfit "expected a sequence"

/-- Opens a collection. -/
def openNode (id : NodeId) : Make Unit := do
  match (← nodeAt id).kind with
  | .mapping => setForm id (.mapping ((← openMapping id).map fun e => (e.key, e.value)))
  | .set => setForm id (.set ((← openMapping id).map (·.key)))
  | .pairs => setForm id (.pairs (← openPairs id))
  | _ => setForm id (.list (← openList id))

/-- Opens the collections in the order in which they were met, from some place on. -/
def openFrom (place : Nat) : Nat → Make Unit
  | 0 => return ()
  | fuel + 1 => do
    match (← get).met[place]? with
    | none => return ()
    | some id =>
      openNode id
      openFrom (place + 1) fuel

/-! ## Values -/

/-- The values of the nodes so far. -/
abbrev Known := Array (Option Value)

/-- The value of a node, put together from the values of its parts. Inside of itself a collection is shown
empty. -/
def valueAt (forms : Array Form) (id : NodeId) : Nat → StateM Known Value
  | 0 => return .null
  | fuel + 1 => do
    match (← get).getD id none with
    | some v => return v
    | none =>
      let known (v : Value) : StateM Known Value := do
        modify fun k => k.setIfInBounds id (some v)
        return v
      match forms.getD id .unmet with
      | .scalar v => return v
      | .list items =>
        let _ ← known (.list [])
        known (.list (← items.mapM fun item => valueAt forms item fuel))
      | .pairs items =>
        let _ ← known (.list [])
        known (.list (← items.mapM fun item => do
          return .pair (← valueAt forms item.1 fuel) (← valueAt forms item.2 fuel)))
      | .mapping entries =>
        let _ ← known (.mapping [])
        known (.mapping (← entries.mapM fun entry => do
          return (entry.1, ← valueAt forms entry.2 fuel)))
      | .set items => return .set items
      | _ => return .null

/-- The number of entries of a node. -/
def Node.entryCount (n : Node) : Nat :=
  match n.content with
  | .mapping entries => entries.length
  | _ => 0

/-- The value of a node of a graph. -/
def Graph.value (g : Graph) (root : NodeId) : Except Fault Value := do
  let making : Make Unit := do
    meetNode root
    openFrom 0 (g.size + 1)
  let start : Maker := {
    nodes := g
    forms := Array.replicate g.size .unmet
    entryCount := g.foldl (fun n node => n + node.entryCount) 0 }
  let (_, m) ← making.run start
  return ((valueAt m.forms root (g.size + 1)).run (Array.replicate g.size none)).1

/-- The value of a YAML text. -/
def read (cs : List Char) : Except Fault Value := do
  match ← Graph.ofText cs with
  | (_, none) => return .null
  | (g, some root) => g.value root

end Scaffold.Markup.Yaml
