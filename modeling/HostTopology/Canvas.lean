import HostTopology.Topology.Typed
import HostTopology.Value.Display

/-!
# Canvas — the nodes and edges that an editor draws

* `Topology.ofCanvas` — the topology that nodes and edges stand for; what lacks an id, a type or an
  endpoint is left out, and a number that is too long to be written ends it;
* `Topology.canvasNodes`, `Topology.canvasEdges` — the nodes and edges of a topology, laid out on a
  grid.
-/

namespace HostTopology
namespace Canvas

/-- A node or an edge that has no members at all, or a number that is too long to be written as text. -/
inductive Error where
  | notMapping
  | numeral (e : Text.NumeralError)
deriving DecidableEq, Repr

abbrev Members := List (Value × Value)

/-! ## Reading -/

/-- Texts, and numbers as text. -/
def asText : Value → Except Error (Option String)
  | .text s => .ok (some s)
  | .int n => ((Text.writeNumeral n).mapError .numeral).map some
  | .float x => .ok (some (Decimal.render numberStyle x))
  | _ => .ok none

def textOf (members : Members) (name : String) : Except Error (Option String) :=
  match Value.lookupEntry name members with
  | some v => asText v
  | none => .ok none

/-- A text that is not empty. -/
def present (s : Option String) : Option String :=
  s.filter (· ≠ "")

/-- A member that has to be text itself. -/
def idOf (members : Members) (name : String) : Option String :=
  match Value.lookupEntry name members with
  | some (.text s) => some s
  | _ => none

/-- The mappings in a list. -/
def rows (members : Members) (name : String) : List Members :=
  match Value.lookupEntry name members with
  | some (.list items) => items.filterMap Value.entries?
  | _ => []

abbrev Pair := Option String × Option String

def pairOf (first second : String) (row : Members) : Except Error Pair := do
  return (← textOf row first, ← textOf row second)

/-- Two members of every mapping in a list, as texts. -/
def pairs (members : Members) (name first second : String) : Except Error (List Pair) :=
  (rows members name).mapM (pairOf first second)

def envVarOf : Pair → Option EnvVar
  | (key, value) => (present key).map fun key => ⟨key, value.getD ""⟩

def portOf : Pair → Option PortMapping
  | (host, container) => (present container).map fun container => ⟨container, present host⟩

def volumeOf : Pair → Option VolumeMount
  | (source, target) => do return ⟨← present source, ← present target⟩

def configOf (data : Members) : Except Error ResourceConfig := do
  let envVars ← pairs data "envVars" "key" "value"
  let ports ← pairs data "ports" "host" "container"
  let volumes ← pairs data "volumes" "source" "target"
  return {
    envVars := envVars.filterMap envVarOf
    ports := ports.filterMap portOf
    volumes := volumes.filterMap volumeOf
    replicas := match Value.lookupEntry "replicas" data with
      | some (.int n) => some n
      | _ => none
    persistent := match Value.lookupEntry "persistent" data with
      | some (.bool b) => some b
      | _ => none }

/-- The id and the type of a node that has both, and its data. -/
def headOf (node : Members) : Option (String × String × Members) := do
  let id ← idOf node "id"
  let data ← (Value.lookupEntry "data" node).bind Value.entries?
  let type ← idOf data "resourceType"
  return (id, type, data)

def instanceOf (id type : String) (data : Members) : Except Error ResourceInstance := do
  let config ← configOf data
  let name ← textOf data "instanceName"
  let database ← textOf data "databaseName"
  return ⟨id, type, name.getD "", present database, config⟩

/-- Only what a node is made of can be too long: a node without an id or a type is not looked at further. -/
def instanceOf? (node : Members) : Except Error (Option ResourceInstance) :=
  match headOf node with
  | some (id, type, data) => (instanceOf id type data).map some
  | none => .ok none

/-- A kind that is not known counts as a reference. -/
def kindOf (edge : Members) : ConnectionKind :=
  ((idOf edge "kind").bind ConnectionKind.ofName?).getD .reference

def connectionOf (edge : Members) : Option Connection := do
  let source ← idOf edge "source"
  let target ← idOf edge "target"
  return Connection.make ((idOf edge "id").getD "") source target (kindOf edge)

def membersOf (v : Value) : Except Error Members :=
  match v.entries? with
  | some members => .ok members
  | none => .error .notMapping

/-! ## Drawing -/

def entry (name : String) (value : Value) : Value × Value :=
  (.text name, value)

def entryIf (present : Bool) (name : String) (value : Value) : Members :=
  if present then [entry name value] else []

def envVarRow (v : EnvVar) : Value :=
  .mapping [entry "key" (.text v.key), entry "value" (.text v.value)]

def portRow (p : PortMapping) : Value :=
  .mapping [entry "host" (.text (p.host.getD "")), entry "container" (.text p.container)]

def volumeRow (v : VolumeMount) : Value :=
  .mapping [entry "source" (.text v.source), entry "target" (.text v.target)]

def configMembers (c : ResourceConfig) : Members :=
  entryIf (!c.envVars.isEmpty) "envVars" (.list (c.envVars.map envVarRow))
    ++ entryIf (!c.ports.isEmpty) "ports" (.list (c.ports.map portRow))
    ++ entryIf (!c.volumes.isEmpty) "volumes" (.list (c.volumes.map volumeRow))
    ++ (c.replicas.map fun n => entry "replicas" (.int n)).toList
    ++ (c.persistent.map fun b => entry "persistent" (.bool b)).toList

def dataOf (r : Registry) (i : ResourceInstance) : Value :=
  .mapping <|
    [entry "resourceType" (.text i.resourceType), entry "label" (.text (r.labelOf i)),
      entry "instanceName" (.text i.name),
      entry "allowsDatabase" (.bool (r.allowsDatabase i.resourceType))]
    ++ ((i.database.filter (· ≠ "")).map fun d => entry "databaseName" (.text d)).toList
    ++ configMembers i.config

/-! ### The grid -/

def columns : Nat := 3

/-- Three nodes stand in a row. -/
def place (position : Nat) : Value :=
  .mapping [entry "x" (.int (100 + 300 * (position % columns : Nat))),
    entry "y" (.int (100 + 150 * (position / columns : Nat)))]

def node (r : Registry) (i : ResourceInstance) (position : Nat) : Value :=
  .mapping [entry "id" (.text i.id), entry "type" (.text "aspire"), entry "position" (place position),
    entry "data" (dataOf r i)]

/-- A reference is the kind of an edge that names none. -/
def edge (c : Connection) : Value :=
  .mapping <|
    [entry "id" (.text c.id), entry "source" (.text c.source), entry "target" (.text c.target)]
    ++ entryIf (c.kind ≠ .reference) "kind" (.text c.kind.name)

end Canvas

namespace Topology

open Canvas

def ofCanvas (nodes edges : List Value) : Except Canvas.Error Topology := do
  let instances ← nodes.mapM fun node => do instanceOf? (← membersOf node)
  let edges ← edges.mapM membersOf
  return ⟨instances.filterMap id, edges.filterMap connectionOf⟩

def canvasNodes (r : Registry) (t : Topology) : List Value :=
  t.instances.zipIdx.map fun (i, position) => node r i position

def canvasEdges (t : Topology) : List Value :=
  t.connections.map edge

end Topology
end HostTopology
