import FeatureFlags.Yaml.Lexer
import FeatureFlags.Yaml.Tag

/-!
# `FeatureFlags.Yaml.Graph` — the nodes of a YAML document

The nodes of a document refer to each other by number, because a node with an anchor may stand in
several places, inside itself too.  `Graph.ofText` reads a text that holds one document at most.

## Contents

1. Nodes
2. The state of a reading
3. Directives and properties
4. Nodes from tokens
5. Documents
-/

namespace FeatureFlags

namespace Yaml

/-! ## Nodes -/

/-- What a node holds. -/
inductive Content where
  | scalar (text : String)
  | sequence (items : List Nat)
  | mapping (entries : List (Nat × Nat))

/-- A node. -/
structure Node where
  tag : Tag
  content : Content

/-- The nodes of a document, and the number of its root. -/
structure Graph where
  nodes : Array Node
  root : Nat

/-! ## The state of a reading -/

/-- The state of a reading. -/
structure Reading where
  lexer : Lexer
  nodes : Array Node := #[]
  /-- The nodes that have an anchor. -/
  anchors : List (String × Nat) := []
  /-- What the handles of tags stand for. -/
  handles : List (String × String) := []
  /-- How many collections what is being read lies in. -/
  depth : Nat := 0

/-- A step of a reading, which may fail. -/
abbrev Read := StateT Reading (Except Error)

namespace Read

/-- Fails because the text is not well formed. -/
def fail {α : Type} : Read α := throw .malformed

/-- Runs a step of the lexer. -/
def lex {α : Type} (step : Lex α) : Read α := do
  let (x, lexer) ← step.run (← get).lexer
  modify fun r => { r with lexer }
  return x

/-- The next token. -/
def peek : Read Token := lex Lex.peek

/-- Takes the next token. -/
def take : Read Unit := lex Lex.take

/-- How many collections may lie in one another. -/
def maxDepth : Nat := 489

/-- Reads what a collection holds. -/
def inside {α : Type} (read : Read α) : Read α := do
  let outer := (← get).depth
  if maxDepth ≤ outer then throw .tooDeep
  modify fun r => { r with depth := outer + 1 }
  let x ← read
  modify fun r => { r with depth := outer }
  return x

/-- Adds a node. -/
def addNode (tag : Tag) (content : Content) : Read Nat := do
  let r ← get
  set { r with nodes := r.nodes.push ⟨tag, content⟩ }
  return r.nodes.size

/-- Fills a collection that was added empty. -/
def fillNode (id : Nat) (content : Content) : Read Unit :=
  modify fun r => { r with nodes := r.nodes.modify id fun n => { n with content } }

/-- Adds the node of a value that is left out. -/
def addEmpty : Read Nat := addNode (Tag.ofPlain []) (.scalar "")

/-! ## Directives and properties -/

/-- The handles that need no directive. -/
def standardHandles : List (String × String) := [("!", "!"), ("!!", Tag.base)]

/-- Reads the directives before a document. -/
def directives (versioned : Bool) (declared : List (String × String)) : Nat → Read Unit
  | 0 => return ()
  | fuel + 1 => do
    match ← peek with
    | .version major =>
      take
      if versioned || major != 1 then fail
      directives true declared fuel
    | .tagHandle handle uri =>
      take
      if (declared.lookup handle).isSome then fail
      directives versioned ((handle, uri) :: declared) fuel
    | .unknownDirective =>
      take
      directives versioned declared fuel
    | _ => modify fun r => { r with handles := declared ++ standardHandles }

/-- The name of a tag, with its handle resolved. -/
def tagName (t : TagName) : Read String := do
  match t.handle with
  | none => return t.suffix
  | some handle =>
    match (← get).handles.lookup handle with
    | some uri => return uri ++ t.suffix
    | none => fail

/-- What may stand before a node. -/
structure Properties where
  anchor : Option String := none
  tag : Option String := none

/-- Reads an anchor and a tag, in either order. -/
def properties : Read Properties := do
  match ← peek with
  | .anchor anchor =>
    take
    match ← peek with
    | .tag t =>
      take
      return ⟨some anchor, some (← tagName t)⟩
    | _ => return ⟨some anchor, none⟩
  | .tag t =>
    take
    match ← peek with
    | .anchor anchor =>
      take
      return ⟨some anchor, some (← tagName t)⟩
    | _ => return ⟨none, some (← tagName t)⟩
  | _ => return {}

/-- The tag of a scalar. -/
def scalarTag (p : Properties) (text : String) (plain : Bool) : Tag :=
  match p.tag with
  | none => if plain then Tag.ofPlain text.toList else .text
  | some "!" => Tag.ofPlain text.toList
  | some name => Tag.ofName name

/-- The tag of a collection. -/
def collectionTag (p : Properties) (usual : Tag) : Tag :=
  match p.tag with
  | none => usual
  | some "!" => usual
  | some name => Tag.ofName name

/-- Fails if an anchor is in use already. -/
def checkAnchor (p : Properties) : Read Unit := do
  match p.anchor with
  | some anchor => if ((← get).anchors.lookup anchor).isSome then fail
  | none => return ()

/-- Adds a node under its anchor, if it has one. -/
def addAnchored (p : Properties) (tag : Tag) (content : Content) : Read Nat := do
  checkAnchor p
  let id ← addNode tag content
  match p.anchor with
  | some anchor =>
    modify fun r => { r with anchors := (anchor, id) :: r.anchors }
    return id
  | none => return id

/-! ## Nodes from tokens -/

/-- Where a node stands, which decides what it can be. -/
inductive Position where
  /-- In a block collection or at the root. -/
  | block
  /-- The key or the value of a block mapping, where a sequence need not be indented. -/
  | entry
  /-- In a flow collection. -/
  | inFlow
  deriving DecidableEq

/-- Whether a token ends or parts the entries of a block collection. -/
def partsBlock : Token → Bool
  | .key | .value | .blockEnd => true
  | _ => false

/-- Whether a token ends or parts the entries of a flow sequence. -/
def partsFlowSequence : Token → Bool
  | .flowEntry | .flowSequenceEnd => true
  | _ => false

/-- Whether a token ends or parts the entries of a flow mapping. -/
def partsFlowMapping : Token → Bool
  | .flowEntry | .flowMappingEnd => true
  | _ => false

mutual

/-- Reads a node. -/
def node (position : Position) : Nat → Read Nat
  | 0 => fail
  | fuel + 1 => do
    match ← peek with
    | .reference name =>
      take
      match (← get).anchors.lookup name with
      | some id => return id
      | none => fail
    | _ =>
      let p ← properties
      match ← peek with
      | .scalar text plain =>
        take
        addAnchored p (scalarTag p text plain) (.scalar text)
      | .flowSequenceStart =>
        let id ← addAnchored p (collectionTag p .sequence) (.sequence [])
        take
        let items ← inside (flowItems true fuel)
        fillNode id (.sequence items)
        return id
      | .flowMappingStart =>
        let id ← addAnchored p (collectionTag p .mapping) (.mapping [])
        take
        let entries ← inside (flowEntries true fuel)
        fillNode id (.mapping entries)
        return id
      | .blockEntry =>
        if position = .entry then
          let id ← addAnchored p (collectionTag p .sequence) (.sequence [])
          let items ← inside (looseItems fuel)
          fillNode id (.sequence items)
          return id
        else emptyNode p
      | .blockSequenceStart =>
        if position = .inFlow then emptyNode p
        else
          let id ← addAnchored p (collectionTag p .sequence) (.sequence [])
          take
          let items ← inside (blockItems fuel)
          fillNode id (.sequence items)
          return id
      | .blockMappingStart =>
        if position = .inFlow then emptyNode p
        else
          let id ← addAnchored p (collectionTag p .mapping) (.mapping [])
          take
          let entries ← inside (blockEntries fuel)
          fillNode id (.mapping entries)
          return id
      | _ => emptyNode p

/-- The node of properties that nothing follows. -/
def emptyNode (p : Properties) : Read Nat :=
  if p.anchor.isNone && p.tag.isNone then fail
  else addAnchored p (scalarTag p "" true) (.scalar "")

/-- The items of a block sequence. -/
def blockItems : Nat → Read (List Nat)
  | 0 => fail
  | fuel + 1 => do
    match ← peek with
    | .blockEntry =>
      take
      let item ←
        match ← peek with
        | .blockEntry | .blockEnd => addEmpty
        | _ => node .block fuel
      return item :: (← blockItems fuel)
    | .blockEnd =>
      take
      return []
    | _ => fail

/-- The items of a block sequence that is not indented; it ends where no item follows. -/
def looseItems : Nat → Read (List Nat)
  | 0 => fail
  | fuel + 1 => do
    match ← peek with
    | .blockEntry =>
      take
      let next ← peek
      let item ←
        match next with
        | .blockEntry => addEmpty
        | _ => if partsBlock next then addEmpty else node .block fuel
      return item :: (← looseItems fuel)
    | _ => return []

/-- The entries of a block mapping. -/
def blockEntries : Nat → Read (List (Nat × Nat))
  | 0 => fail
  | fuel + 1 => do
    match ← peek with
    | .key =>
      take
      let key ← if partsBlock (← peek) then addEmpty else node .entry fuel
      let value ← blockValue fuel
      return (key, value) :: (← blockEntries fuel)
    | .blockEnd =>
      take
      return []
    | _ => fail

/-- The value of a block mapping's key, which may be left out. -/
def blockValue : Nat → Read Nat
  | 0 => fail
  | fuel + 1 => do
    match ← peek with
    | .value =>
      take
      if partsBlock (← peek) then addEmpty else node .entry fuel
    | _ => addEmpty

/-- The items of a flow sequence.  A key makes a mapping of a single entry. -/
def flowItems (first : Bool) : Nat → Read (List Nat)
  | 0 => fail
  | fuel + 1 => do
    match ← peek with
    | .flowSequenceEnd =>
      take
      return []
    | next =>
      if !first then
        match next with
        | .flowEntry => take
        | _ => fail
      match ← peek with
      | .flowSequenceEnd =>
        take
        return []
      | .key =>
        let id ← addNode .mapping (.mapping [])
        take
        let next ← peek
        let key ← inside <|
          match next with
          | .value => addEmpty
          | _ => if partsFlowSequence next then addEmpty else node .inFlow fuel
        let value ← inside (flowPairValue fuel)
        fillNode id (.mapping [(key, value)])
        return id :: (← flowItems false fuel)
      | _ =>
        let item ← node .inFlow fuel
        return item :: (← flowItems false fuel)

/-- The value of a mapping of a single entry, which may be left out. -/
def flowPairValue : Nat → Read Nat
  | 0 => fail
  | fuel + 1 => do
    match ← peek with
    | .value =>
      take
      if partsFlowSequence (← peek) then addEmpty else node .inFlow fuel
    | _ => addEmpty

/-- The entries of a flow mapping.  A node that is no key has no value. -/
def flowEntries (first : Bool) : Nat → Read (List (Nat × Nat))
  | 0 => fail
  | fuel + 1 => do
    match ← peek with
    | .flowMappingEnd =>
      take
      return []
    | next =>
      if !first then
        match next with
        | .flowEntry => take
        | _ => fail
      match ← peek with
      | .flowMappingEnd =>
        take
        return []
      | .key =>
        take
        let next ← peek
        let key ←
          match next with
          | .value => addEmpty
          | _ => if partsFlowMapping next then addEmpty else node .inFlow fuel
        let value ← flowEntryValue fuel
        return (key, value) :: (← flowEntries false fuel)
      | _ =>
        let key ← node .inFlow fuel
        let value ← addEmpty
        return (key, value) :: (← flowEntries false fuel)

/-- The value of a flow mapping's key, which may be left out. -/
def flowEntryValue : Nat → Read Nat
  | 0 => fail
  | fuel + 1 => do
    match ← peek with
    | .value =>
      take
      if partsFlowMapping (← peek) then addEmpty else node .inFlow fuel
    | _ => addEmpty

end

/-! ## Documents -/

/-- Skips the markers of ends of documents. -/
def skipEnds : Nat → Read Unit
  | 0 => return ()
  | fuel + 1 => do
    match ← peek with
    | .documentEnd =>
      take
      skipEnds fuel
    | _ => return ()

/-- Whether no document follows.  If one does, its directives are read and its marker is taken. -/
def atEnd (fuel : Nat) : Read Bool := do
  skipEnds fuel
  match ← peek with
  | .streamEnd => return true
  | _ =>
    directives false [] fuel
    match ← peek with
    | .documentStart =>
      take
      return false
    | _ => fail

/-- The root of a document whose marker has been taken. -/
def markedRoot (fuel : Nat) : Read Nat := do
  match ← peek with
  | .version _ | .tagHandle _ _ | .unknownDirective | .documentStart | .documentEnd | .streamEnd =>
    addEmpty
  | _ => node .block fuel

/-- Reads the only document, none if there is none. -/
def document (fuel : Nat) : Read (Option Nat) := do
  let root ←
    match ← peek with
    | .version _ | .tagHandle _ _ | .unknownDirective | .documentStart | .streamEnd =>
      if ← atEnd fuel then pure none else some <$> markedRoot fuel
    | _ =>
      modify fun r => { r with handles := standardHandles }
      some <$> node .block fuel
  if root.isNone then return none
  if ← atEnd fuel then return root else fail

end Read

namespace Graph

/-- Reads the document of a text, none if it has none. -/
def ofText (text : String) : Except Error (Option Graph) := do
  let chars := text.toList
  if !chars.all isAllowed then throw .malformed
  let start : Reading := { lexer := { cursor := { rest := chars } } }
  let (root, r) ← (Read.document (8 * chars.length + 16)).run start
  return root.map fun root => ⟨r.nodes, root⟩

end Graph

end Yaml

end FeatureFlags
