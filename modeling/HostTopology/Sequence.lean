import HostTopology.Topology.Basic

/-!
# Sequence — instances in dependency order

Every source comes before its targets. Instances that nothing holds back are taken in topology
order; taking one may set others free, and those queue behind. What lies on a cycle, or behind one,
is never set free and is left over.

* `Topology.links` — the connections that count: both endpoints are present;
* `Sequence.run` — the queue, with the number of connections that still hold back each id;
* `Topology.sequence`, `Topology.sequenceAll` — the result, and the result if nothing is left over.
-/

namespace HostTopology

/-! ## Links -/

namespace Topology

def hasId (t : Topology) (id : String) : Bool :=
  t.instances.any fun i => i.id = id

def links (t : Topology) : List Connection :=
  t.connections.filter fun c => t.hasId c.source && t.hasId c.target

/-- The last instance with an id. -/
def findLast? (t : Topology) (id : String) : Option ResourceInstance :=
  t.instances.reverse.find? fun i => i.id = id

end Topology

namespace Sequence

def successors (links : List Connection) (id : String) : List String :=
  (links.filter fun c => c.source = id).map Connection.target

/-- How many links hold back each id. -/
abbrev Degrees := List (String × Int)

def degree (id : String) (d : Degrees) : Int :=
  (d.lookup id).getD 0

def lower (id : String) (d : Degrees) : Degrees :=
  d.map fun e => if e.1 = id then (e.1, e.2 - 1) else e

def startDegrees (ids : List String) (links : List Connection) : Degrees :=
  ids.eraseDups.map fun id => (id, ((links.countP fun c => c.target = id : Nat) : Int))

/-- Takes one link away from each of the ids; an id that no link holds back any more is free. -/
def release : List String → Degrees → List String × Degrees
  | [], d => ([], d)
  | id :: ids, d =>
    let d := lower id d
    let (freed, last) := release ids d
    (if degree id d = 0 then id :: freed else freed, last)

/-- The ids in the order in which they leave the queue. -/
def run (links : List Connection) : Nat → List String → Degrees → List String
  | 0, _, _ => []
  | _, [], _ => []
  | n + 1, id :: queue, d =>
    let (freed, d) := release (successors links id) d
    id :: run links n (queue ++ freed) d

end Sequence

structure Sequenced where
  ordered : List ResourceInstance
  unsequenced : List ResourceInstance
deriving DecidableEq, Repr

/-- Instances that no order can hold, in topology order. -/
structure CycleError where
  unsequenced : List ResourceInstance
deriving DecidableEq, Repr

/-- The name of an instance; an instance without a name is shown by its id. -/
def ResourceInstance.nameOrId (i : ResourceInstance) : String :=
  if i.name = "" then i.id else i.name

def CycleError.message (e : CycleError) : String :=
  "Dependency cycle prevents ordering of: "
    ++ ", ".intercalate (e.unsequenced.map ResourceInstance.nameOrId)

namespace Topology

/-- The ids in dependency order. No more ids leave the queue than there are instances. -/
def order (t : Topology) : List String :=
  let degrees := Sequence.startDegrees t.ids t.links
  let free := t.ids.filter fun id => Sequence.degree id degrees = 0
  Sequence.run t.links t.instances.length free degrees

def sequence (t : Topology) : Sequenced where
  ordered := t.order.filterMap t.findLast?
  unsequenced := t.instances.filter fun i => !t.order.contains i.id

/-- All instances in dependency order. -/
def sequenceAll (t : Topology) : Except CycleError Sequenced :=
  let s := t.sequence
  if s.unsequenced.isEmpty then .ok s else .error ⟨s.unsequenced⟩

end Topology
end HostTopology
