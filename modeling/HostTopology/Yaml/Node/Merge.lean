import HostTopology.Yaml.Node.Basic

/-!
# Merge — mappings that take entries from others

An entry with a merge key is no entry of its own: its value names mappings whose entries are taken
over. `Graph.merged` puts them before the entries that a mapping has, in the graph, so that every
place with the number of the mapping has them. A mapping that is merged into another has its own
merge keys removed first, and a mapping can be merged into itself.
-/

namespace HostTopology
namespace Yaml
namespace Merge

abbrev Merging := StateT Graph (Except Fault)

abbrev Entry := Nat × Nat

def isMerge (g : Graph) (e : Entry) : Bool :=
  (g.node e.1).tag = Node.mergeTag

/-- A key of a mapping that is read as a mapping is a text, also where it marks the default value. -/
def settleKey (id : Nat) : Merging Unit := do
  let x := (← get).node id
  if x.tag = Node.defaultTag then modify fun g => g.setIfInBounds id (x.withTag Node.textTag)

def entriesOf (id : Nat) : Merging (List Entry) := do
  match (← get).node id with
  | .mapping _ entries => return entries
  | _ => throw .malformed

def setEntries (id : Nat) (entries : List Entry) : Merging Unit := do
  let t := ((← get).node id).tag
  modify fun g => g.setIfInBounds id (.mapping t entries)

/-- Removes the merge keys from a place on and joins the entries that they name; `joined` are those
of the keys before. Every step removes a merge key, so that the fuel is their number. -/
def joinFrom : Nat → Nat → Nat → List Entry → Merging Unit
  | 0, _, _, _ => throw .malformed
  | n + 1, id, place, joined => do
    let g ← get
    let entries ← entriesOf id
    let plain := (entries.drop place).takeWhile (!isMerge g ·)
    plain.forM fun e => settleKey e.1
    let place := place + plain.length
    match entries[place]? with
    | none => if joined ≠ [] then setEntries id (joined ++ entries)
    | some (_, source) =>
      setEntries id (entries.eraseIdx place)
      let entriesAfter (x : Nat) : Merging (List Entry) := do
        let _ ← entriesOf x
        joinFrom n x 0 []
        entriesOf x
      let more ← match (← get).node source with
        | .sequence _ items => do pure (← items.mapM entriesAfter).reverse.flatten
        | _ => entriesAfter source
      joinFrom n id place (joined ++ more)

end Merge

/-- The graph in which a mapping has the entries of those merged into it. -/
def Graph.merged (g : Graph) (id : Nat) : Except Fault Graph :=
  (Merge.joinFrom (g.entryCount + 1) id 0 [] g).map Prod.snd

end Yaml
end HostTopology
