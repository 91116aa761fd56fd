import Scaffold.Markup.Yaml.Kind
import Scaffold.Markup.Yaml.Token

/-!
# The nodes of a YAML text

The nodes of a text make up a graph of scalars, sequences and mappings. An alias is the node that its anchor
names, so a node may be found in several places, and also inside of itself.

* `Graph.ofText`: the nodes of the single document of a text, and its root if there is a document.
-/
namespace Scaffold.Markup.Yaml

/-- The number of a node. -/
abbrev NodeId := Nat

/-- What a node is made of. -/
inductive Content where
  | scalar (text : String)
  | sequence (items : List NodeId)
  | mapping (entries : List (NodeId × NodeId))
  deriving Repr, Inhabited

/-- A node. -/
structure Node where
  kind : Kind
  content : Content
  deriving Repr, Inhabited

/-- The nodes of a text, by number. -/
abbrev Graph := Array Node

/-- How many tokens were taken, how many collections are not complete, the nodes so far, those with an anchor,
and the handles of tags. -/
structure Reader where
  taken : Nat := 0
  depth : Nat := 0
  nodes : Graph := #[]
  anchors : List (String × NodeId) := []
  handles : List (String × String) := []

/-- A step of reading nodes. -/
abbrev Read := StateT Reader Scan

/-- Refuses the tokens. -/
def misplaced {α : Type} (detail : String) : Read α := fun _ _ => .error (.malformed detail)

/-! ## Tokens -/

/-- The next token. -/
def peekToken : Read (Option Token) := do
  tokenAt (← get).taken

/-- Goes one token further. -/
def skipToken : Read Unit := modify fun r => { r with taken := r.taken + 1 }

/-- Whether the next token is one of some tokens; at the end there is none. -/
def nextIsIn (ts : List Token) : Read Bool := do
  match ← peekToken with
  | some t => return ts.contains t
  | none => return false

/-- Takes a token if it is the next one. -/
def accept (t : Token) : Read Bool := do
  if ← nextIsIn [t] then
    skipToken
    return true
  else return false

/-- Takes a token that must be the next one. -/
def expect (t : Token) (detail : String) : Read Unit := do
  if !(← accept t) then misplaced detail

/-! ## Nodes -/

/-- Adds a node. -/
def addNode (n : Node) : Read NodeId := do
  let id := (← get).nodes.size
  modify fun r => { r with nodes := r.nodes.push n }
  return id

/-- Adds the node of nothing. -/
def addEmpty : Read NodeId := addNode ⟨.null, .scalar ""⟩

/-- Gives a collection its parts, with which it is complete. -/
def fillNode (id : NodeId) (content : Content) : Read NodeId := do
  modify fun r => { r with
    depth := r.depth - 1
    nodes := r.nodes.modify id fun n => { n with content := content } }
  return id

/-- The tag of a node: none, one that leaves the kind to the text, or one that gives it. -/
inductive Tag where
  | none
  | free
  | full (name : String)
  deriving Repr, DecidableEq

/-- The tag that a handle and the rest of a tag make up. -/
def Tag.ofParts (start rest : String) : Tag := if start ++ rest = "!" then .free else .full (start ++ rest)

/-- The anchor and the tag before a node. -/
structure Properties where
  anchor : Option String := none
  tag : Tag := .none
  deriving Repr, DecidableEq

/-- The kind of a scalar. -/
def scalarKind (tag : Tag) (text : String) (plain : Bool) : Kind :=
  match tag with
  | .full name => .ofTag name
  | .free => .ofPlain text
  | .none => if plain then .ofPlain text else .text

/-- The kind of a collection. -/
def collectionKind (tag : Tag) (usual : Kind) : Kind :=
  match tag with
  | .full name => .ofTag name
  | _ => usual

/-- Takes an anchor, if there is one. -/
def anchor? : Read (Option String) := do
  match ← peekToken with
  | some (.anchor name) =>
    skipToken
    return some name
  | _ => return none

/-- Takes a tag, if there is one: its handle and the rest. -/
def tag? : Read (Option (Option String × String)) := do
  match ← peekToken with
  | some (.tag handle rest) =>
    skipToken
    return some (handle, rest)
  | _ => return none

/-- The tag of a node; its handle must be known. -/
def resolveTag : Option (Option String × String) → Read Tag
  | none => return .none
  | some (none, rest) => return .ofParts "" rest
  | some (some handle, rest) => do
    match (← get).handles.lookup handle with
    | some start => return .ofParts start rest
    | none => misplaced "found undefined tag handle"

/-- Takes an anchor and a tag, in either order. -/
def properties : Read Properties := do
  match ← anchor? with
  | some name => return ⟨some name, ← resolveTag (← tag?)⟩
  | none =>
    match ← tag? with
    | none => return {}
    | some tag =>
      let anchor ← anchor?
      return ⟨anchor, ← resolveTag (some tag)⟩

/-- Adds a node with its anchor, which must be new. -/
def addNamed (anchor : Option String) (n : Node) : Read NodeId := do
  match anchor with
  | none => addNode n
  | some name =>
    if ((← get).anchors.lookup name).isSome then misplaced "found duplicate anchor"
    else
      let id ← addNode n
      modify fun r => { r with anchors := (name, id) :: r.anchors }
      return id

/-- The node that an anchor names. -/
def aliased (name : String) : Read NodeId := do
  match (← get).anchors.lookup name with
  | some id => return id
  | none => misplaced "found undefined alias"

/-- Adds a scalar of which only an anchor or a tag is given. -/
def addBare (p : Properties) : Read NodeId := do
  if p.anchor.isNone && p.tag == .none then misplaced "expected the content of a node"
  else addNamed p.anchor ⟨scalarKind p.tag "" true, .scalar ""⟩

/-- How many collections may stand inside of each other. -/
def depthLimit : Nat := 487

/-- Adds a collection before its parts are known. -/
def addCollection (anchor : Option String) (n : Node) : Read NodeId := do
  let id ← addNamed anchor n
  if depthLimit ≤ (← get).depth then fun _ _ => .error (.unreadable (.tooDeep ""))
  else
    modify fun r => { r with depth := r.depth + 1 }
    return id

/-- Adds a sequence before its items are known. -/
def addSequence (p : Properties) : Read NodeId :=
  addCollection p.anchor ⟨collectionKind p.tag .list, .sequence []⟩

/-- Adds a mapping before its entries are known. -/
def addMapping (p : Properties) : Read NodeId :=
  addCollection p.anchor ⟨collectionKind p.tag .mapping, .mapping []⟩

mutual

/-- Takes a node; in a block it may be a block collection, and after a key an unindented sequence. -/
def readNode (block unindented : Bool) : Nat → Read NodeId
  | 0 => misplaced "expected a node"
  | fuel + 1 => do
    if let some (.aliasOf name) ← peekToken then
      skipToken
      return ← aliased name
    let p ← properties
    match ← peekToken with
    | some (.scalar text plain) =>
      skipToken
      addNamed p.anchor ⟨scalarKind p.tag text plain, .scalar text⟩
    | some .flowSequenceStart =>
      let id ← addSequence p
      skipToken
      fillNode id (.sequence (← readFlowSequence true fuel))
    | some .flowMappingStart =>
      let id ← addMapping p
      skipToken
      fillNode id (.mapping (← readFlowMapping true fuel))
    | some .blockEntry =>
      if unindented then
        let id ← addSequence p
        fillNode id (.sequence (← readUnindented fuel))
      else addBare p
    | some .blockSequenceStart =>
      if block then
        let id ← addSequence p
        skipToken
        fillNode id (.sequence (← readBlockSequence fuel))
      else addBare p
    | some .blockMappingStart =>
      if block then
        let id ← addMapping p
        skipToken
        fillNode id (.mapping (← readBlockMapping fuel))
      else addBare p
    | _ => addBare p

/-- Takes the node before one of some tokens, or nothing if one of them comes next. -/
def readUnless (ts : List Token) (block unindented : Bool) : Nat → Read NodeId
  | 0 => misplaced "expected a node"
  | fuel + 1 => do
    if ← nextIsIn ts then addEmpty else readNode block unindented fuel

/-- Takes the value of a key, or nothing if there is no mark of a value. -/
def readValue (ts : List Token) (block : Bool) : Nat → Read NodeId
  | 0 => misplaced "expected a node"
  | fuel + 1 => do
    if ← accept .value then readUnless ts block block fuel else addEmpty

/-- Takes the items of a block sequence and its end. -/
def readBlockSequence : Nat → Read (List NodeId)
  | 0 => misplaced "expected a node"
  | fuel + 1 => do
    if ← accept .blockEntry then
      let n ← readUnless [.blockEntry, .blockEnd] true false fuel
      return n :: (← readBlockSequence fuel)
    else
      expect .blockEnd "expected the end of a block"
      return []

/-- Takes the items of a sequence that is not indented. -/
def readUnindented : Nat → Read (List NodeId)
  | 0 => misplaced "expected a node"
  | fuel + 1 => do
    if ← accept .blockEntry then
      let n ← readUnless [.blockEntry, .key, .value, .blockEnd] true false fuel
      return n :: (← readUnindented fuel)
    else return []

/-- Takes the entries of a block mapping and its end. -/
def readBlockMapping : Nat → Read (List (NodeId × NodeId))
  | 0 => misplaced "expected a node"
  | fuel + 1 => do
    if ← accept .key then
      let k ← readUnless [.key, .value, .blockEnd] true true fuel
      let v ← readValue [.key, .value, .blockEnd] true fuel
      return (k, v) :: (← readBlockMapping fuel)
    else
      expect .blockEnd "expected the end of a block"
      return []

/-- Takes the items of a flow sequence and its end. A key without braces makes a mapping of one entry. -/
def readFlowSequence (first : Bool) : Nat → Read (List NodeId)
  | 0 => misplaced "expected a node"
  | fuel + 1 => do
    if ← accept .flowSequenceEnd then return []
    if !first then expect .flowEntry "expected ',' or ']'"
    if ← accept .key then
      let id ← addMapping {}
      let k ← readUnless [.value, .flowEntry, .flowSequenceEnd] false false fuel
      let v ← readValue [.flowEntry, .flowSequenceEnd] false fuel
      let n ← fillNode id (.mapping [(k, v)])
      return n :: (← readFlowSequence false fuel)
    else if ← accept .flowSequenceEnd then return []
    else
      let n ← readNode false false fuel
      return n :: (← readFlowSequence false fuel)

/-- Takes the entries of a flow mapping and its end. A node alone is a key without a value. -/
def readFlowMapping (first : Bool) : Nat → Read (List (NodeId × NodeId))
  | 0 => misplaced "expected a node"
  | fuel + 1 => do
    if ← accept .flowMappingEnd then return []
    if !first then expect .flowEntry "expected ',' or a closing brace"
    if ← accept .key then
      let k ← readUnless [.value, .flowEntry, .flowMappingEnd] false false fuel
      let v ← readValue [.flowEntry, .flowMappingEnd] false fuel
      return (k, v) :: (← readFlowMapping false fuel)
    else if ← accept .flowMappingEnd then return []
    else
      let k ← readNode false false fuel
      let v ← addEmpty
      return (k, v) :: (← readFlowMapping false fuel)

end

/-! ## Documents -/

/-- Takes directives: at most one version, which must be 1, and handles, each once. -/
def directives (versioned : Bool) (handles : List (String × String)) :
    Nat → Read (List (String × String))
  | 0 => return handles
  | fuel + 1 => do
    match ← peekToken with
    | some (.yamlDirective major) =>
      skipToken
      if versioned then misplaced "found duplicate YAML directive"
      else if major ≠ 1 then misplaced "found incompatible YAML document"
      else directives true handles fuel
    | some (.tagDirective handle start) =>
      skipToken
      if (handles.lookup handle).isSome then misplaced "duplicate tag handle"
      else directives versioned ((handle, start) :: handles) fuel
    | some .otherDirective =>
      skipToken
      directives versioned handles fuel
    | _ => return handles

/-- The handles that need no directive. -/
def standardHandles : List (String × String) := [("!", "!"), ("!!", standardTag)]

/-- Takes the marks of the end of a document. -/
def skipDocumentEnds : Nat → Read Unit
  | 0 => return ()
  | fuel + 1 => do
    if ← accept .documentEnd then skipDocumentEnds fuel else return ()

/-- Whether a token is a directive. -/
def Token.isDirective : Token → Bool
  | .yamlDirective _ => true
  | .tagDirective _ _ => true
  | .otherDirective => true
  | _ => false

/-- Takes the directives of a document and the mark of its start. -/
def documentStart (fuel : Nat) : Read Unit := do
  let handles ← directives false [] fuel
  modify fun r => { r with handles := handles ++ standardHandles }
  expect .documentStart "expected the start of a document"

/-- Takes the content of a document after its start. -/
def documentContent (fuel : Nat) : Read NodeId := do
  match ← peekToken with
  | none => addEmpty
  | some t =>
    if t.isDirective || t == .documentStart || t == .documentEnd then addEmpty
    else readNode true false fuel

/-- Takes the single document of a text, nothing if it is empty. -/
def document (fuel : Nat) : Read (Option NodeId) := do
  match ← peekToken with
  | none => return none
  | some t =>
    let root ←
      if t.isDirective || t == .documentStart then do
        documentStart fuel
        documentContent fuel
      else do
        modify fun r => { r with handles := standardHandles }
        readNode true false fuel
    skipDocumentEnds fuel
    if (← peekToken).isSome then
      documentStart fuel
      misplaced "expected a single document"
    else return some root

/-- The nodes of a text and the root of its document. There are at most four tokens for each character, and
no more than three steps between two of them. -/
def Graph.ofText (cs : List Char) : Except Fault (Graph × Option NodeId) := do
  let start ← Scanner.ofText cs
  let ((root, r), _) ← ((document (12 * cs.length + 24)).run {}).run start
  return (r.nodes, root)

end Scaffold.Markup.Yaml
