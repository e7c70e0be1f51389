/-!
# Topology — resource instances and the connections between them

* `ResourceConfig`, `ResourceInstance` — one node of the graph with its configuration;
* `Connection` — a directed edge: the target depends on the source;
* `Topology` — the graph, in the order in which its parts were entered.

Nothing here keeps the ids apart or the endpoints present; `Topology.DistinctIds` and
`Topology.Closed` name these properties.
-/

namespace HostTopology

/-! ## Parts -/

structure EnvVar where
  key : String
  value : String
deriving DecidableEq, Repr

/-- Ports are kept as entered. -/
structure PortMapping where
  container : String
  host : Option String
deriving DecidableEq, Repr

structure VolumeMount where
  source : String
  target : String
deriving DecidableEq, Repr

structure ResourceConfig where
  envVars : List EnvVar
  ports : List PortMapping
  volumes : List VolumeMount
  replicas : Option Int
  persistent : Option Bool
deriving DecidableEq, Repr

def ResourceConfig.empty : ResourceConfig :=
  ⟨[], [], [], none, none⟩

structure ResourceInstance where
  id : String
  resourceType : String
  name : String
  database : Option String
  config : ResourceConfig
deriving DecidableEq, Repr

/-- What the target needs the source for. -/
inductive ConnectionKind where
  | reference
  | waitFor
  | dependsOn
deriving DecidableEq, Repr

structure Connection where
  id : String
  source : String
  target : String
  kind : ConnectionKind
deriving DecidableEq, Repr

structure Topology where
  instances : List ResourceInstance
  connections : List Connection
deriving DecidableEq, Repr

/-! ## Kinds of connections -/

namespace ConnectionKind

def all : List ConnectionKind :=
  [reference, waitFor, dependsOn]

def name : ConnectionKind → String
  | reference => "reference"
  | waitFor => "waitFor"
  | dependsOn => "dependsOn"

def ofName? (s : String) : Option ConnectionKind :=
  all.find? fun k => k.name = s

theorem ofName?_name (k : ConnectionKind) : ofName? k.name = some k := by
  cases k <;> decide

end ConnectionKind

/-- The id of a connection that is given none. -/
def Connection.defaultId (source target : String) : String :=
  "edge_" ++ source ++ "_" ++ target

/-- A connection; an empty id counts as none. -/
def Connection.make (id : String) (source target : String) (kind : ConnectionKind) : Connection :=
  ⟨if id = "" then defaultId source target else id, source, target, kind⟩

namespace Connection

theorem id_make_ne_empty (id source target : String) (kind : ConnectionKind) :
    (make id source target kind).id ≠ "" := by
  rw [make]
  split
  · simp [defaultId]
  · assumption

theorem make_eq_self_iff {c : Connection} : make c.id c.source c.target c.kind = c ↔ c.id ≠ "" := by
  constructor
  · intro h
    exact h ▸ id_make_ne_empty c.id c.source c.target c.kind
  · intro h
    rw [make, if_neg h]

end Connection

/-! ## The graph -/

namespace Topology

def empty : Topology :=
  ⟨[], []⟩

/-- The first instance with an id. -/
def find? (t : Topology) (id : String) : Option ResourceInstance :=
  t.instances.find? fun i => i.id = id

def ids (t : Topology) : List String :=
  t.instances.map ResourceInstance.id

def incoming (t : Topology) (id : String) : List Connection :=
  t.connections.filter fun c => c.target = id

def outgoing (t : Topology) (id : String) : List Connection :=
  t.connections.filter fun c => c.source = id

def DistinctIds (t : Topology) : Prop :=
  t.ids.Nodup

/-- Both endpoints of every connection are present. -/
def Closed (t : Topology) : Prop :=
  ∀ c ∈ t.connections, c.source ∈ t.ids ∧ c.target ∈ t.ids

/-! ## Edits -/

def addInstance (t : Topology) (i : ResourceInstance) : Topology :=
  { t with instances := t.instances ++ [i] }

/-- Puts an instance in place of those with its id. There has to be one. -/
def replaceInstance? (t : Topology) (i : ResourceInstance) : Option Topology :=
  if (t.find? i.id).isSome then
    some { t with instances := t.instances.map fun old => if old.id = i.id then i else old }
  else none

/-- Takes an instance away with its connections. -/
def removeInstance (t : Topology) (id : String) : Topology where
  instances := t.instances.filter fun i => i.id ≠ id
  connections := t.connections.filter fun c => c.source ≠ id && c.target ≠ id

/-- Adds a connection. Endpoints are not looked at. -/
def connect (t : Topology) (source target : String) (kind : ConnectionKind) (id : String) : Topology :=
  { t with connections := t.connections ++ [Connection.make id source target kind] }

def disconnect (t : Topology) (id : String) : Topology :=
  { t with connections := t.connections.filter fun c => c.id ≠ id }

/-- Appends another graph. -/
def append (t other : Topology) : Topology :=
  ⟨t.instances ++ other.instances, t.connections ++ other.connections⟩

end Topology

namespace ResourceInstance

def rename (i : ResourceInstance) (name : String) : ResourceInstance :=
  { i with name := name }

def withDatabase (i : ResourceInstance) (database : Option String) : ResourceInstance :=
  { i with database := database }

def withEnvVar (i : ResourceInstance) (key value : String) : ResourceInstance :=
  { i with config := { i.config with envVars := i.config.envVars ++ [⟨key, value⟩] } }

def withPort (i : ResourceInstance) (container : String) (host : Option String) : ResourceInstance :=
  { i with config := { i.config with ports := i.config.ports ++ [⟨container, host⟩] } }

def withVolume (i : ResourceInstance) (source target : String) : ResourceInstance :=
  { i with config := { i.config with volumes := i.config.volumes ++ [⟨source, target⟩] } }

end ResourceInstance
end HostTopology
