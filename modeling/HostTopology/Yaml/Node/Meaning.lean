import HostTopology.Yaml.Node.Merge
import HostTopology.Yaml.Node.Reader
import HostTopology.Yaml.Scalar.Meaning

/-!
# Meaning — from nodes to values

`Value.ofYaml` is the value of the one document in a text. It is found in two steps.

* `Meaning.meet` and `Meaning.fill` find the part that each node plays: a scalar, or a collection of
  nodes. Collections are filled level by level, so that of several faults the one on the outermost
  level, and there the leftmost, is the fault of the text.
* `Meaning.assemble` puts the parts together. A collection inside itself is `Value.enclosing`.
-/

namespace HostTopology
namespace Yaml
namespace Meaning

/-! ## Scalars -/

/-- The text of a node that is read as a scalar. A mapping with a default value stands for that value;
a chain of such mappings has to end before a node comes again. -/
def content (g : Graph) : Nat → Nat → Except Fault Text.Points
  | 0, _ => .error .endless
  | n + 1, id =>
    match g.node id with
    | .scalar _ c => .ok c
    | .sequence .. => .error .malformed
    | .mapping _ entries =>
      match entries.find? fun e => (g.node e.1).tag = Node.defaultTag with
      | some e => content g n e.2
      | none => .error .malformed

/-- The identity of a scalar counts where it is not equal to itself. The standard spelling of what is
no number is one and the same wherever it stands. -/
def identity (id : Nat) (c : Text.Points) : Value → Nat
  | .float x => if x.isNaN && Scalar.isNaNName c.text then 0 else id + 1
  | _ => id + 1

def isScalar : Node → Bool
  | .scalar .. => true
  | _ => false

/-- The identity and the value of a node that is no collection. -/
def scalar (g : Graph) (id : Nat) : Except Fault (Nat × Value) :=
  let x := g.node id
  match Scalar.reader? x.tag with
  | none => .error .malformed
  | some read => do
    let c ← content g (g.size + 1) id
    if !isScalar x && x.tag = Node.timestampTag then .error .collectionTimestamp
    else
      let v ← read c
      return (identity id c v, v)

/-! ## Parts -/

/-- What a node is: a scalar with its identity, or a collection of other nodes. -/
inductive Part where
  | scalar (identity : Nat) (v : Value)
  | list (items : List Nat)
  | pairs (items : List (Nat × Nat))
  | set (members : List Value)
  | mapping (entries : List (Value × Nat))
deriving Inhabited

/-- The parts found so far, and the collections among them that are not filled yet, last one first. -/
structure Progress where
  graph : Graph
  parts : Array (Option Part)
  fresh : List Nat

abbrev Building := StateT Progress (Except Fault)

def part? (id : Nat) : Building (Option Part) := do
  return (← get).parts.getD id none

def setPart (id : Nat) (p : Part) : Building Unit :=
  modify fun s => { s with parts := s.parts.setIfInBounds id (some p) }

def isPairsTag (t : String) : Bool :=
  t = Node.orderedMappingTag || t = Node.pairsTag

def isCollectionTag (t : String) : Bool :=
  t = Node.sequenceTag || t = Node.mappingTag || t = Node.setTag || isPairsTag t

/-- Finds the part of a node. A collection is empty at first. -/
def meet (id : Nat) : Building Unit := do
  match ← part? id with
  | some _ => return
  | none =>
    let g := (← get).graph
    if isCollectionTag (g.node id).tag then
      setPart id (.list [])
      modify fun s => { s with fresh := id :: s.fresh }
    else
      let (identity, v) ← scalar g id
      setPart id (.scalar identity v)

/-- A key is a scalar. -/
def key (id : Nat) : Building (Nat × Value) := do
  meet id
  match ← part? id with
  | some (.scalar identity v) => return (identity, v)
  | _ => throw .malformed

/-- An entry of a mapping that is being filled: the identity of its key, its key, and its node. -/
abbrev Row := Nat × Value × Nat

/-- A later entry with the same key replaces the value and keeps the place. -/
def insertRow (row : Row) : List Row → List Row
  | [] => [row]
  | (identity, k, v) :: rest =>
    if identity = row.1 || Value.sameKey k row.2.1 then (identity, k, row.2.2) :: rest
    else (identity, k, v) :: insertRow row rest

def rows (id : Nat) : Building (List Row) := do
  let g ← (← get).graph.merged id
  modify fun s => { s with graph := g }
  match g.node id with
  | .mapping _ entries =>
    entries.foldlM (fun acc (k, v) => do
      let (identity, k) ← key k
      meet v
      return insertRow (identity, k, v) acc) []
  | _ => throw .malformed

/-- An item of an ordered mapping: a mapping with one entry. -/
def pair (id : Nat) : Building (Nat × Nat) := do
  match (← get).graph.node id with
  | .mapping _ [(k, v)] =>
    meet k
    meet v
    return (k, v)
  | _ => throw .malformed

/-- Finds the parts of the nodes in a collection. -/
def fill (id : Nat) : Building Unit := do
  match (← get).graph.node id with
  | .sequence t items =>
    if t = Node.sequenceTag then
      items.forM meet
      setPart id (.list items)
    else if isPairsTag t then setPart id (.pairs (← items.mapM pair))
    else throw .malformed
  | .mapping t _ =>
    if t = Node.mappingTag then setPart id (.mapping ((← rows id).map Prod.snd))
    else if t = Node.setTag then setPart id (.set ((← rows id).map fun r => r.2.1))
    else throw .malformed
  | .scalar .. => throw .malformed

/-- Fills the collections of one level and then those of the next. -/
def fillLevels : Nat → List Nat → Building Unit
  | 0, _ => throw .malformed
  | n + 1, ids => do
    ids.forM fill
    let next := (← get).fresh.reverse
    if next = [] then return
    else
      modify fun s => { s with fresh := [] }
      fillLevels n next

/-- The parts of all nodes that the node `root` reaches. -/
def parts (g : Graph) (root : Nat) : Except Fault (Array (Option Part)) :=
  let start : Progress := ⟨g, Array.replicate g.size none, []⟩
  (do meet root; fillLevels (g.size + 1) [] : Building Unit).run start |>.map fun (_, s) => s.parts

/-! ## Values -/

/-- The values of nodes that do not reach themselves. -/
abbrev Known := Array (Option Value)

def isMappingPart : Part → Bool
  | .mapping _ => true
  | _ => false

/-- The value of a node inside the collections `around` it, and whether it has no loops in it. -/
def assemble (parts : Array (Option Part)) : Nat → List Nat → Nat → StateM Known (Value × Bool)
  | 0, _, _ => return (.null, true)
  | n + 1, around, id => do
    let p := (parts.getD id none).getD default
    if around.contains id then return (.enclosing id (isMappingPart p), false)
    match (← get).getD id none with
    | some v => return (v, true)
    | none =>
      let inside := assemble parts n (id :: around)
      let (v, isPlain) ← match p with
        | .scalar _ v => pure (v, true)
        | .list items => do
          let vs ← items.mapM inside
          pure (.list (vs.map Prod.fst), vs.all Prod.snd)
        | .pairs items => do
          let vs ← items.mapM fun (k, v) => do
            let (k, isPlainKey) ← inside k
            let (v, isPlain) ← inside v
            pure (Value.pair k v, isPlainKey && isPlain)
          pure (.list (vs.map Prod.fst), vs.all Prod.snd)
        | .set members => pure (.set members, true)
        | .mapping entries => do
          let vs ← entries.mapM fun (k, v) => do
            let (v, isPlain) ← inside v
            pure ((k, v), isPlain)
          pure (.mapping (vs.map Prod.fst), vs.all Prod.snd)
      if isPlain then
        modify fun known => known.setIfInBounds id (some v)
        return (v, true)
      else return (.loop id v, false)

end Meaning

/-- The value of a node of a graph. -/
def Graph.value (g : Graph) (root : Nat) : Except Fault Value := do
  let parts ← Meaning.parts g root
  return ((Meaning.assemble parts (g.size + 1) [] root).run (Array.replicate g.size none)).1.1

end Yaml

/-- The value of the one document in a text. A text without a document has the value null. -/
def Value.ofYaml (text : String) : Except Yaml.Fault Value := do
  match ← Yaml.Graph.ofText text with
  | none => return .null
  | some (g, root) => g.value root

end HostTopology
