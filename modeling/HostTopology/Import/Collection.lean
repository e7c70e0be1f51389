import HostTopology.Entries
import HostTopology.Import.Allocator
import HostTopology.Topology.Basic

/-!
# Collection — what an import has collected so far

A file of another format names services, not ids. Every instance that is found gets a new id at once, and from
then on its draft is looked up, and joined to others, by that id.

* `Draft` — an instance while it is being read;
* `Collection` — drafts under their ids, the names that stand for them, and pairs of ids that are to be connected;
* `Collection.imported` — the topology that comes of it.
-/

namespace HostTopology

/-- An instance without an id. -/
structure Draft where
  resourceType : String
  name : String
  database : Option String
  config : ResourceConfig
deriving DecidableEq, Repr

def Draft.withId (d : Draft) (id : String) : ResourceInstance :=
  ⟨id, d.resourceType, d.name, d.database, d.config⟩

/-- A topology, and notes about what was passed over or guessed. -/
structure Imported where
  topology : Topology
  warnings : List String
deriving DecidableEq, Repr

/-- Instances from drafts, and connections in the order of their ends. -/
def Topology.ofDrafts (drafts : List (String × Draft)) (edges : List (String × String)) : Topology :=
  edges.foldl (fun t e => t.connect e.1 e.2 .reference "") ⟨drafts.map fun d => d.2.withId d.1, []⟩

structure Collection where
  ids : IdAllocator
  /-- Drafts under their ids, in the order in which they were found. -/
  drafts : List (String × Draft)
  /-- The id that a name stands for. -/
  aliases : List (String × String)
  /-- The ids of a source and of a target. -/
  edges : List (String × String)
  warnings : List String
deriving DecidableEq, Repr

namespace Collection

def start (reserved : List String) : Collection :=
  ⟨.start reserved, [], [], [], []⟩

def warn (c : Collection) (warnings : List String) : Collection :=
  { c with warnings := c.warnings ++ warnings }

/-- Lets a name stand for an id, whatever it stood for. -/
def bind (c : Collection) (name id : String) : Collection :=
  { c with aliases := Entries.put c.aliases name id }

/-- A draft under a new id, which a name stands for. -/
def add (c : Collection) (name : String) (d : Draft) : Collection :=
  let (id, ids) := c.ids.allocate
  { c with ids := ids, drafts := Entries.put c.drafts id d }.bind name id

def change (c : Collection) (id : String) (f : Draft → Draft) : Collection :=
  { c with drafts := Entries.change c.drafts id f }

/-- Joins two different drafts unless they are joined already. -/
def join (c : Collection) (source target : String) : Collection :=
  if source = target ∨ (source, target) ∈ c.edges then c
  else { c with edges := c.edges ++ [(source, target)] }

def imported (c : Collection) : Imported :=
  ⟨.ofDrafts c.drafts c.edges, c.warnings⟩

end Collection
end HostTopology
