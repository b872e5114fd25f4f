import FeatureFlags.Yaml.Graph
import FeatureFlags.Yaml.Literal

/-!
# `FeatureFlags.Yaml.Document` — the value of a YAML text

The value of a document is built from its root: scalars at once, and collections one after the other
in the order in which they are met, so that the first of several faults decides the failure.
`Yaml.load` unfolds the result to a given depth, since a collection may contain itself.

## Contents

1. Values that refer to collections
2. Scalars
3. Merging mappings
4. Collections
5. Unfolding
-/

namespace FeatureFlags

namespace Yaml

/-! ## Values that refer to collections -/

/-- A value, in which a collection is given by the number of its node. -/
inductive Value where
  | scalar (s : Setting)
  | collection (id : Nat)
  | pair (key value : Value)

/-- What a collection holds once it is built. -/
inductive Built where
  | list (items : List Value)
  | set (items : List Setting)
  | map (entries : List (Setting × Value))

/-- The state of a construction. -/
structure Building where
  nodes : Array Node
  /-- The collections that have been met but not built, the next one first. -/
  waiting : List Nat := []
  /-- The collections that have been met. -/
  met : List Nat := []
  built : List (Nat × Built) := []

/-- A step of a construction, which may fail. -/
abbrev Build := StateT Building (Except Error)

namespace Build

/-- Fails because a node does not fit its tag. -/
def fail {α : Type} : Build α := throw .malformed

/-- A node by its number. -/
def nodeAt (id : Nat) : Build Node :=
  return (← get).nodes[id]?.getD ⟨.null, .scalar ""⟩

/-! ## Scalars -/

/-- The text of a scalar, or of the default value of a mapping. -/
def scalarText : Nat → Nat → Build String
  | 0, _ => fail
  | fuel + 1, id => do
    match (← nodeAt id).content with
    | .scalar text => return text
    | .sequence _ => fail
    | .mapping entries =>
      let defaults ← entries.filterM fun (key, _) => return (← nodeAt key).tag = .default
      match defaults.head? with
      | some (_, value) => scalarText fuel value
      | none => fail

/-- The text of a scalar, as characters. -/
def scalarChars (id : Nat) : Build (List Char) :=
  return (← scalarText ((← get).nodes.size + 1) id).toList

/-- The value of a node: a scalar is read, and a collection is put off. -/
def value (id : Nat) : Build Value := do
  let node ← nodeAt id
  match node.tag with
  | .null =>
    let _ ← scalarChars id
    return .scalar .null
  | .bool => return .scalar (.bool (← Literal.bool (← scalarChars id)))
  | .int => return .scalar (.number (.int (← Literal.integer (← scalarChars id))))
  | .float => return .scalar (.number (.float (← Literal.float (← scalarChars id))))
  | .binary => return .scalar (.bytes (← Literal.binary (← scalarChars id)))
  | .timestamp =>
    let chars ← scalarChars id
    match node.content with
    | .scalar _ => return .scalar (.moment (← Literal.timestamp chars))
    | _ => throw (.value ⟨.type, "expected string or bytes-like object, got 'list'"⟩)
  | .text => return .scalar (.text (String.ofList (← scalarChars id)))
  | .sequence | .mapping | .set | .orderedMap | .pairs =>
    let b ← get
    if !b.met.contains id then
      set { b with met := id :: b.met, waiting := b.waiting ++ [id] }
    return .collection id
  | .merge | .default | .unknown => fail

/-! ## Merging mappings -/

/-- The entries of a mapping, none of any other node. -/
def entriesOf (id : Nat) : Build (List (Nat × Nat)) := do
  match (← nodeAt id).content with
  | .mapping entries => return entries
  | _ => return []

/-- Replaces the entries of a mapping. -/
def setEntries (id : Nat) (entries : List (Nat × Nat)) : Build Unit :=
  modify fun b =>
    { b with nodes := b.nodes.modify id fun n => { n with content := .mapping entries } }

mutual

/-- Puts the entries of the mappings that a mapping merges in before its own. -/
def flatten : Nat → Nat → Build Unit
  | 0, _ => return ()
  | fuel + 1, id => do
    let merged ← mergedFrom fuel id 0
    setEntries id (merged ++ (← entriesOf id))

/-- Takes the merge keys out of a mapping, from a place on, and gives the entries to be merged in.
A default key becomes text. -/
def mergedFrom : Nat → Nat → Nat → Build (List (Nat × Nat))
  | 0, _, _ => return []
  | fuel + 1, id, place => do
    let entries ← entriesOf id
    match entries[place]? with
    | none => return []
    | some (key, value) =>
      match (← nodeAt key).tag with
      | .merge =>
        setEntries id (entries.eraseIdx place)
        let now ←
          match (← nodeAt value).content with
          | .mapping _ => do
            flatten fuel value
            entriesOf value
          | .sequence items => do
            let parts ← sources fuel items
            pure parts.reverse.flatten
          | .scalar _ => fail
        return now ++ (← mergedFrom fuel id place)
      | .default =>
        modify fun b =>
          { b with nodes := b.nodes.modify key fun n => { n with tag := .text } }
        mergedFrom fuel id (place + 1)
      | _ => mergedFrom fuel id (place + 1)

/-- The entries of each of several mappings to be merged in. -/
def sources : Nat → List Nat → Build (List (List (Nat × Nat)))
  | 0, _ => return []
  | _, [] => return []
  | fuel + 1, item :: rest => do
    match (← nodeAt item).content with
    | .mapping _ =>
      flatten fuel item
      let entries ← entriesOf item
      return entries :: (← sources fuel rest)
    | _ => fail

end

/-- A bound on the steps of merging. -/
def mergeBound : Build Nat := do
  let nodes := (← get).nodes
  let size (n : Node) : Nat :=
    match n.content with
    | .scalar _ => 1
    | .sequence items => items.length + 1
    | .mapping entries => entries.length + 1
  let total := nodes.foldl (fun sum n => sum + size n) 0
  return (total + 2) * (total + 2)

/-! ## Collections -/

/-- A key of a mapping, and the node that it comes from.  A not-a-number is the same key as another
only if both come from one node or both are given by name, which counts as no node. -/
structure Key where
  value : Setting
  node : Option Nat

namespace Key

/-- Whether two keys are the same. -/
def same (a b : Key) : Bool := a.node == b.node || a.value.sameKey b.value

end Key

/-- Puts a value under a key, in the place of the same key if there is one. -/
def insertEntry (key : Key) (value : Value) : List (Key × Value) → List (Key × Value)
  | [] => [(key, value)]
  | (k, v) :: rest =>
    if k.same key then (k, value) :: rest else (k, v) :: insertEntry key value rest

/-- The key that a node gives.  A collection cannot be a key. -/
def keyOf (id : Nat) : Build Key := do
  match ← value id with
  | .scalar (.number (.float .nan)) =>
    return ⟨.number (.float .nan), if Literal.namesNan (← scalarChars id) then none else some id⟩
  | .scalar s => return ⟨s, some id⟩
  | _ => fail

/-- The entries of a mapping. -/
def mapEntries (id : Nat) : Build (List (Setting × Value)) := do
  match (← nodeAt id).content with
  | .mapping _ =>
    flatten (← mergeBound) id
    let entries ← (← entriesOf id).foldlM (fun entries (key, val) => do
      let k ← keyOf key
      return insertEntry k (← value val) entries) []
    return entries.map fun (k, v) => (k.value, v)
  | _ => fail

/-- A mapping of a single entry, as a pair. -/
def pairOf (id : Nat) : Build Value := do
  match (← nodeAt id).content with
  | .mapping [(key, val)] => return .pair (← value key) (← value val)
  | _ => fail

/-- The items of a sequence. -/
def itemsOf (id : Nat) : Build (List Nat) := do
  match (← nodeAt id).content with
  | .sequence items => return items
  | _ => fail

/-- What a collection holds. -/
def contents (id : Nat) : Build Built := do
  match (← nodeAt id).tag with
  | .mapping => return .map (← mapEntries id)
  | .set => return .set ((← mapEntries id).map Prod.fst)
  | .orderedMap | .pairs => return .list (← (← itemsOf id).mapM pairOf)
  | _ => return .list (← (← itemsOf id).mapM value)

/-- Builds the collections that wait. -/
def buildAll : Nat → Build Unit
  | 0 => return ()
  | fuel + 1 => do
    match (← get).waiting with
    | [] => return ()
    | id :: rest =>
      modify fun b => { b with waiting := rest }
      let built ← contents id
      modify fun b => { b with built := (id, built) :: b.built }
      buildAll fuel

/-- Builds the value of a root. -/
def document (root : Nat) : Build Value := do
  let v ← value root
  buildAll ((← get).nodes.size + 1)
  return v

end Build

/-! ## Unfolding -/

/-- A value as a setting; what lies deeper than the given depth is left out. -/
def Value.unfold (built : List (Nat × Built)) : Nat → Value → Setting
  | _, .scalar s => s
  | 0, .pair _ _ => .list []
  | depth + 1, .pair key value => .list [key.unfold built depth, value.unfold built depth]
  | 0, .collection id =>
    match built.lookup id with
    | some (.map _) => .map []
    | some (.set _) => .set []
    | _ => .list []
  | depth + 1, .collection id =>
    match built.lookup id with
    | some (.map entries) => .map (entries.map fun (k, v) => (k, v.unfold built depth))
    | some (.set items) => .set items
    | some (.list items) => .list (items.map fun v => v.unfold built depth)
    | none => .list []

/-- The value of a text, to the given depth; a text without a document is null. -/
def load (depth : Nat) (text : String) : Except Error Setting := do
  match ← Graph.ofText text with
  | none => return .null
  | some graph =>
    let (v, b) ← (Build.document graph.root).run { nodes := graph.nodes }
    return v.unfold b.built depth

end Yaml

end FeatureFlags
