import HostTopology.Canvas
import HostTopology.Proofs.Results
import Mathlib.Data.List.Basic

/-!
# Drawing — which topologies survive being drawn

A topology is drawn as nodes and edges, and read from them. What is empty is left out on the way, by either
side. This file tells what comes back, and when it is the topology that was drawn:

* `Topology.redrawn` — a topology without its empty parts;
* `ofCanvas_canvas` — what is drawn is read as that;
* `Topology.IsDrawable` — nothing is empty; `redrawn_eq_self_iff` and `isDrawable_of_ofCanvas` say that
  these are the topologies that stay the same, and the only ones that are ever read;
* `redraw_iff_isDrawable` — both facts for a round over the canvas.
-/

namespace List

variable {α : Type} {f : α → Option α}

theorem filterMap_eq_self_iff {l : List α} : l.filterMap f = l ↔ ∀ x ∈ l, f x = some x := by
  constructor
  · intro h
    induction l with
    | nil => exact fun x hx => absurd hx not_mem_nil
    | cons y l ih =>
      rw [forall_mem_cons]
      cases hy : f y with
      -- a member that is left out is missing at the end
      | none =>
        rw [filterMap_cons_none hy] at h
        have hlength := length_filterMap_le f l
        rw [h, length_cons] at hlength
        omega
      | some z =>
        rw [filterMap_cons_some hy] at h
        obtain ⟨rfl, hrest⟩ := cons.inj h
        exact ⟨rfl, ih hrest⟩
  · intro h
    rw [filterMap_congr h, filterMap_some]

theorem map_eq_self_iff {g : α → α} {l : List α} : l.map g = l ↔ ∀ x ∈ l, g x = x := by
  simpa using map_inj_left (l := l) (f := g) (g := id)

end List

namespace HostTopology

/-! ## Topologies without empty parts -/

def EnvVar.redrawn? (v : EnvVar) : Option EnvVar :=
  if v.key = "" then none else some v

def PortMapping.redrawn? (p : PortMapping) : Option PortMapping :=
  if p.container = "" then none else some ⟨p.container, p.host.filter (· ≠ "")⟩

def VolumeMount.redrawn? (v : VolumeMount) : Option VolumeMount :=
  if v.source = "" ∨ v.target = "" then none else some v

def ResourceConfig.redrawn (c : ResourceConfig) : ResourceConfig :=
  { c with
    envVars := c.envVars.filterMap EnvVar.redrawn?
    ports := c.ports.filterMap PortMapping.redrawn?
    volumes := c.volumes.filterMap VolumeMount.redrawn? }

def ResourceInstance.redrawn (i : ResourceInstance) : ResourceInstance :=
  { i with database := i.database.filter (· ≠ ""), config := i.config.redrawn }

def Connection.redrawn (c : Connection) : Connection :=
  .make c.id c.source c.target c.kind

def Topology.redrawn (t : Topology) : Topology :=
  ⟨t.instances.map ResourceInstance.redrawn, t.connections.map Connection.redrawn⟩

/-! ### Drawable topologies -/

def PortMapping.IsDrawable (p : PortMapping) : Prop :=
  p.container ≠ "" ∧ p.host ≠ some ""

def VolumeMount.IsDrawable (v : VolumeMount) : Prop :=
  v.source ≠ "" ∧ v.target ≠ ""

@[mk_iff]
structure ResourceInstance.IsDrawable (i : ResourceInstance) : Prop where
  database : i.database ≠ some ""
  envVars : ∀ v ∈ i.config.envVars, v.key ≠ ""
  ports : ∀ p ∈ i.config.ports, p.IsDrawable
  volumes : ∀ v ∈ i.config.volumes, v.IsDrawable

@[mk_iff]
structure Topology.IsDrawable (t : Topology) : Prop where
  instances : ∀ i ∈ t.instances, i.IsDrawable
  connections : ∀ c ∈ t.connections, c.id ≠ ""

theorem filter_ne_empty_eq_self_iff {s : Option String} : s.filter (· ≠ "") = s ↔ s ≠ some "" := by
  cases s with
  | none => simp
  | some text => by_cases h : text = "" <;> simp [h]

theorem EnvVar.redrawn?_eq_some_iff {v : EnvVar} : v.redrawn? = some v ↔ v.key ≠ "" := by
  by_cases h : v.key = "" <;> simp [redrawn?, h]

theorem PortMapping.redrawn?_eq_some_iff {p : PortMapping} : p.redrawn? = some p ↔ p.IsDrawable := by
  rcases p with ⟨container, host⟩
  rw [IsDrawable, ← filter_ne_empty_eq_self_iff]
  by_cases h : container = "" <;> simp [redrawn?, h]

theorem VolumeMount.redrawn?_eq_some_iff {v : VolumeMount} : v.redrawn? = some v ↔ v.IsDrawable := by
  rw [IsDrawable, ← not_or]
  by_cases h : v.source = "" ∨ v.target = "" <;> simp [redrawn?, h]

theorem ResourceInstance.redrawn_eq_self_iff {i : ResourceInstance} : i.redrawn = i ↔ i.IsDrawable := by
  rcases i with ⟨id, type, name, database, envVars, ports, volumes, replicas, persistent⟩
  simp only [redrawn, ResourceConfig.redrawn, isDrawable_iff, mk.injEq, ResourceConfig.mk.injEq, true_and, and_true,
    List.filterMap_eq_self_iff, filter_ne_empty_eq_self_iff, EnvVar.redrawn?_eq_some_iff,
    PortMapping.redrawn?_eq_some_iff, VolumeMount.redrawn?_eq_some_iff]

theorem Topology.redrawn_eq_self_iff {t : Topology} : t.redrawn = t ↔ t.IsDrawable := by
  rcases t with ⟨instances, connections⟩
  simp only [redrawn, isDrawable_iff, mk.injEq, List.map_eq_self_iff, ResourceInstance.redrawn_eq_self_iff,
    Connection.redrawn, Connection.make_eq_self_iff]

namespace Canvas

variable {r : Registry} {i : ResourceInstance} {c : Connection} {members : Members} {name key : String}

/-! ## Looking up members -/

@[simp] theorem lookupEntry_nil (name : String) : Value.lookupEntry name [] = none := rfl

@[simp] theorem lookupEntry_append (name : String) (members others : Members) : Value.lookupEntry name (members ++ others) =
    (Value.lookupEntry name members).or (Value.lookupEntry name others) := by
  simp only [Value.lookupEntry, List.find?_append, Option.map_or]

@[simp] theorem lookupEntry_entry (value : Value) : Value.lookupEntry name (entry key value :: members) =
    if key = name then some value else Value.lookupEntry name members := by
  by_cases h : key = name <;> simp [Value.lookupEntry, entry, h]

@[simp] theorem lookupEntry_entryIf (present : Bool) (value : Value) :
    Value.lookupEntry name (entryIf present key value) = if present ∧ key = name then some value else none := by
  cases present <;> by_cases h : key = name <;> simp [Value.lookupEntry, entryIf, entry, h]

@[simp] theorem lookupEntry_toList {α : Type} (value : α → Value) (a : Option α) :
    Value.lookupEntry name (a.map fun x => entry key (value x)).toList = if key = name then a.map value else none := by
  cases a <;> by_cases h : key = name <;> simp [Value.lookupEntry, entry, h]

/-! ## Rows -/

theorem textOf_text {s : String} (h : Value.lookupEntry name members = some (.text s)) :
    textOf members name = .ok (some s) := by
  rw [textOf, h]
  rfl

theorem envVarOf_pair (v : EnvVar) : envVarOf (some v.key, some v.value) = v.redrawn? := by
  by_cases h : v.key = "" <;> simp [envVarOf, present, EnvVar.redrawn?, Option.filter_some, h]

theorem portOf_pair (p : PortMapping) : portOf (some (p.host.getD ""), some p.container) = p.redrawn? := by
  -- a port without a host is drawn with an empty one
  have hnone : present (some (p.host.getD "")) = p.host.filter (· ≠ "") := by
    cases p.host <;> rfl
  rw [portOf, hnone]
  by_cases h : p.container = "" <;> simp [present, PortMapping.redrawn?, Option.filter_some, h]

theorem volumeOf_pair (v : VolumeMount) : volumeOf (some v.source, some v.target) = v.redrawn? := by
  by_cases hs : v.source = ""
  · simp [volumeOf, present, VolumeMount.redrawn?, hs]
  · by_cases ht : v.target = "" <;> simp [volumeOf, present, VolumeMount.redrawn?, Option.filter_some, hs, ht]

/-- A list that is left out where it is empty is read as the list. -/
theorem rows_of_lookupEntry {α : Type} {l : List α} {row : α → Members}
    (h : Value.lookupEntry name members =
      if l = [] then none else some (.list (l.map fun x => .mapping (row x)))) :
    rows members name = l.map row := by
  have hentries : (l.map fun x => Value.mapping (row x)).filterMap Value.entries? = l.map row := by
    rw [List.filterMap_map, ← List.filterMap_eq_map]
    rfl
  rw [rows, h]
  cases l with
  | nil => rfl
  | cons x l => exact hentries

theorem pairs_of_lookupEntry {α : Type} {l : List α} {row : α → Members} {pair : α → Pair} {first second : String}
    (h : Value.lookupEntry name members =
      if l = [] then none else some (.list (l.map fun x => .mapping (row x))))
    (hrow : ∀ x, pairOf first second (row x) = .ok (pair x)) :
    pairs members name first second = .ok (l.map pair) := by
  rw [pairs, rows_of_lookupEntry h, List.mapM_map]
  exact Except.mapM_eq_ok_map fun x _ => hrow x

/-! ## Nodes and edges -/

def dataMembers (r : Registry) (i : ResourceInstance) : Members :=
  [entry "resourceType" (.text i.resourceType), entry "label" (.text (r.labelOf i)),
    entry "instanceName" (.text i.name), entry "allowsDatabase" (.bool (r.allowsDatabase i.resourceType))]
  ++ ((i.database.filter (· ≠ "")).map fun d => entry "databaseName" (.text d)).toList
  ++ configMembers i.config

def nodeMembers (r : Registry) (i : ResourceInstance) (position : Nat) : Members :=
  [entry "id" (.text i.id), entry "type" (.text "aspire"), entry "position" (place position),
    entry "data" (dataOf r i)]

def edgeMembers (c : Connection) : Members :=
  [entry "id" (.text c.id), entry "source" (.text c.source), entry "target" (.text c.target)]
    ++ entryIf (c.kind ≠ .reference) "kind" (.text c.kind.name)

theorem lookupEntry_configMembers (c : ResourceConfig) :
    Value.lookupEntry "databaseName" (configMembers c) = none ∧
    Value.lookupEntry "envVars" (configMembers c) =
      (if c.envVars = [] then none else some (.list (c.envVars.map envVarRow))) ∧
    Value.lookupEntry "ports" (configMembers c) =
      (if c.ports = [] then none else some (.list (c.ports.map portRow))) ∧
    Value.lookupEntry "volumes" (configMembers c) =
      (if c.volumes = [] then none else some (.list (c.volumes.map volumeRow))) ∧
    Value.lookupEntry "replicas" (configMembers c) = c.replicas.map .int ∧
    Value.lookupEntry "persistent" (configMembers c) = c.persistent.map .bool := by
  simp [configMembers]

/-- What is drawn of the type and the names of an instance is not part of its configuration. -/
theorem lookupEntry_dataMembers
    (hname : name ∉ ["resourceType", "label", "instanceName", "allowsDatabase", "databaseName"]) :
    Value.lookupEntry name (dataMembers r i) = Value.lookupEntry name (configMembers i.config) := by
  simp only [List.mem_cons, List.not_mem_nil, or_false, not_or] at hname
  obtain ⟨htype, hlabel, hname, hallows, hdatabase⟩ := hname
  simp [dataMembers, Ne.symm htype, Ne.symm hlabel, Ne.symm hname, Ne.symm hallows, Ne.symm hdatabase]

theorem configOf_dataMembers (r : Registry) (i : ResourceInstance) :
    configOf (dataMembers r i) = .ok i.config.redrawn := by
  obtain ⟨-, henvVars, hports, hvolumes, hreplicas, hpersistent⟩ := lookupEntry_configMembers i.config
  -- the three lists are read row by row
  have henv : pairs (dataMembers r i) "envVars" "key" "value" =
      .ok (i.config.envVars.map fun v => (some v.key, some v.value)) :=
    pairs_of_lookupEntry ((lookupEntry_dataMembers (by simp)).trans henvVars) fun _ => rfl
  have hport : pairs (dataMembers r i) "ports" "host" "container" =
      .ok (i.config.ports.map fun p => (some (p.host.getD ""), some p.container)) :=
    pairs_of_lookupEntry ((lookupEntry_dataMembers (by simp)).trans hports) fun _ => rfl
  have hvolume : pairs (dataMembers r i) "volumes" "source" "target" =
      .ok (i.config.volumes.map fun v => (some v.source, some v.target)) :=
    pairs_of_lookupEntry ((lookupEntry_dataMembers (by simp)).trans hvolumes) fun _ => rfl
  have hreplicas := (lookupEntry_dataMembers (r := r) (by simp)).trans hreplicas
  have hpersistent := (lookupEntry_dataMembers (r := r) (by simp)).trans hpersistent
  refine Except.bind_eq_ok_iff.2 ⟨_, henv, Except.bind_eq_ok_iff.2 ⟨_, hport, Except.bind_eq_ok_iff.2 ⟨_, hvolume, ?_⟩⟩⟩
  rw [hreplicas, hpersistent, ResourceConfig.redrawn]
  simp only [List.filterMap_map, Function.comp_def, envVarOf_pair, portOf_pair, volumeOf_pair]
  cases i.config.replicas <;> cases i.config.persistent <;> rfl

theorem textOf_databaseName (r : Registry) (i : ResourceInstance) :
    textOf (dataMembers r i) "databaseName" = .ok (i.database.filter (· ≠ "")) := by
  have hlookup : Value.lookupEntry "databaseName" (dataMembers r i) = (i.database.filter (· ≠ "")).map .text := by
    simp [dataMembers, lookupEntry_configMembers]
  rw [textOf, hlookup]
  cases i.database.filter (· ≠ "") <;> rfl

/-- A node is read as the instance that it was drawn for, without what is empty in it. -/
theorem instanceOf?_nodeMembers (r : Registry) (i : ResourceInstance) (position : Nat) :
    instanceOf? (nodeMembers r i position) = .ok (some i.redrawn) := by
  have hhead : headOf (nodeMembers r i position) = some (i.id, i.resourceType, dataMembers r i) := rfl
  have hname : textOf (dataMembers r i) "instanceName" = .ok (some i.name) := textOf_text rfl
  have hinstance : instanceOf i.id i.resourceType (dataMembers r i) = .ok i.redrawn := by
    refine Except.bind_eq_ok_iff.2 ⟨_, configOf_dataMembers r i, Except.bind_eq_ok_iff.2 ⟨_, hname,
      Except.bind_eq_ok_iff.2 ⟨_, textOf_databaseName r i, ?_⟩⟩⟩
    rw [present, Option.filter_filter, ResourceInstance.redrawn]
    simp only [Bool.and_self]
    rfl
  rw [instanceOf?, hhead]
  exact congrArg (Except.map some) hinstance

theorem connectionOf_edgeMembers (c : Connection) : connectionOf (edgeMembers c) = some c.redrawn := by
  have hkind : kindOf (edgeMembers c) = c.kind := by
    cases hc : c.kind <;> simp [kindOf, idOf, edgeMembers, hc, ConnectionKind.ofName?_name]
  have hid : idOf (edgeMembers c) "id" = some c.id := rfl
  have hsource : idOf (edgeMembers c) "source" = some c.source := rfl
  have htarget : idOf (edgeMembers c) "target" = some c.target := rfl
  rw [connectionOf, hid, hsource, htarget, hkind]
  rfl

/-! ## What is read -/

theorem present_ne_empty (s : Option String) : present s ≠ some "" := by
  intro h
  have hfilter := (Option.filter_eq_some_iff.1 h).2
  simp at hfilter

theorem isDrawable_of_portOf {pair : Pair} {p : PortMapping} (h : portOf pair = some p) : p.IsDrawable := by
  rcases Option.map_eq_some_iff.1 h with ⟨container, hcontainer, rfl⟩
  refine ⟨?_, present_ne_empty _⟩
  rintro rfl
  exact present_ne_empty _ hcontainer

theorem isDrawable_of_volumeOf {pair : Pair} {v : VolumeMount} (h : volumeOf pair = some v) : v.IsDrawable := by
  rcases Option.bind_eq_some_iff.1 h with ⟨source, hsource, h⟩
  rcases Option.bind_eq_some_iff.1 h with ⟨target, htarget, h⟩
  obtain rfl := Option.some.inj h
  constructor
  · rintro rfl
    exact present_ne_empty _ hsource
  · rintro rfl
    exact present_ne_empty _ htarget

theorem key_ne_empty_of_envVarOf {pair : Pair} {v : EnvVar} (h : envVarOf pair = some v) : v.key ≠ "" := by
  rcases Option.map_eq_some_iff.1 h with ⟨key, hkey, rfl⟩
  rintro rfl
  exact present_ne_empty _ hkey

theorem isDrawable_of_instanceOf {id type : String} (h : instanceOf id type members = .ok i) : i.IsDrawable := by
  rcases Except.bind_eq_ok_iff.1 h with ⟨config, hconfig, h⟩
  rcases Except.bind_eq_ok_iff.1 h with ⟨instanceName, -, h⟩
  rcases Except.bind_eq_ok_iff.1 h with ⟨database, -, h⟩
  obtain rfl := Except.ok.inj h
  rcases Except.bind_eq_ok_iff.1 hconfig with ⟨envVars, -, hconfig⟩
  rcases Except.bind_eq_ok_iff.1 hconfig with ⟨ports, -, hconfig⟩
  rcases Except.bind_eq_ok_iff.1 hconfig with ⟨volumes, -, hconfig⟩
  obtain rfl := Except.ok.inj hconfig
  refine ⟨present_ne_empty database, ?_, ?_, ?_⟩
  · intro v hv
    rcases List.mem_filterMap.1 hv with ⟨pair, -, hpair⟩
    exact key_ne_empty_of_envVarOf hpair
  · intro p hp
    rcases List.mem_filterMap.1 hp with ⟨pair, -, hpair⟩
    exact isDrawable_of_portOf hpair
  · intro v hv
    rcases List.mem_filterMap.1 hv with ⟨pair, -, hpair⟩
    exact isDrawable_of_volumeOf hpair

theorem isDrawable_of_instanceOf? (h : instanceOf? members = .ok (some i)) : i.IsDrawable := by
  unfold instanceOf? at h
  split at h
  · rcases hinstance : instanceOf _ _ _ with e | j
    · rw [hinstance] at h
      cases h
    · rw [hinstance] at h
      cases h
      exact isDrawable_of_instanceOf hinstance
  · cases h

theorem id_ne_empty_of_connectionOf (h : connectionOf members = some c) : c.id ≠ "" := by
  rcases Option.bind_eq_some_iff.1 h with ⟨source, -, h⟩
  rcases Option.bind_eq_some_iff.1 h with ⟨target, -, h⟩
  obtain rfl := Option.some.inj h
  exact Connection.id_make_ne_empty _ _ _ _

end Canvas

namespace Topology

open Canvas

variable {t : Topology} {nodes edges : List Value}

theorem ofCanvas_canvas (r : Registry) (t : Topology) : ofCanvas (t.canvasNodes r) t.canvasEdges = .ok t.redrawn := by
  have hnodes : ((t.canvasNodes r).mapM fun node => do instanceOf? (← membersOf node)) =
      .ok (t.instances.zipIdx.map fun e => some e.1.redrawn) := by
    rw [canvasNodes, List.mapM_map]
    exact Except.mapM_eq_ok_map fun e _ => instanceOf?_nodeMembers r e.1 e.2
  have hedges : t.canvasEdges.mapM membersOf = .ok (t.connections.map edgeMembers) := by
    rw [canvasEdges, List.mapM_map]
    exact List.mapM_pure
  -- where an instance stands only matters for its place on the grid
  have hinstances : (t.instances.zipIdx.map fun e => some e.1.redrawn).filterMap id =
      t.instances.map ResourceInstance.redrawn := by
    calc (t.instances.zipIdx.map fun e => some e.1.redrawn).filterMap id
        = t.instances.zipIdx.map fun e => e.1.redrawn := by
          rw [List.filterMap_map, ← List.filterMap_eq_map]
          rfl
      _ = (t.instances.zipIdx.map Prod.fst).map ResourceInstance.redrawn := by
          rw [List.map_map]
          rfl
      _ = t.instances.map ResourceInstance.redrawn := by rw [List.zipIdx_map_fst]
  have hconnections : (t.connections.map edgeMembers).filterMap connectionOf =
      t.connections.map Connection.redrawn := by
    rw [List.filterMap_map, ← List.filterMap_eq_map]
    exact List.filterMap_congr fun c _ => connectionOf_edgeMembers c
  refine Except.bind_eq_ok_iff.2 ⟨_, hnodes, Except.bind_eq_ok_iff.2 ⟨_, hedges, ?_⟩⟩
  rw [hinstances, hconnections]
  rfl

/-- Whatever is read from nodes and edges can be drawn. -/
theorem isDrawable_of_ofCanvas (h : ofCanvas nodes edges = .ok t) : t.IsDrawable := by
  rcases Except.bind_eq_ok_iff.1 h with ⟨found, hfound, h⟩
  rcases Except.bind_eq_ok_iff.1 h with ⟨edges, -, h⟩
  obtain rfl := Except.ok.inj h
  constructor
  · intro i hi
    obtain ⟨i?, hi?, rfl⟩ := List.mem_filterMap.1 hi
    obtain ⟨node, -, hnode⟩ := Except.exists_of_mem_mapM hfound hi?
    obtain ⟨members, -, hinstance⟩ := Except.bind_eq_ok_iff.1 hnode
    exact isDrawable_of_instanceOf? hinstance
  · intro c hc
    rcases List.mem_filterMap.1 hc with ⟨edge, -, hedge⟩
    exact id_ne_empty_of_connectionOf hedge

theorem ofCanvas_canvas_eq_self_iff (r : Registry) : ofCanvas (t.canvasNodes r) t.canvasEdges = .ok t ↔ t.IsDrawable := by
  rw [ofCanvas_canvas, Except.ok.injEq, redrawn_eq_self_iff]

/-- A topology is what its nodes and edges are read as, exactly if nothing in it is empty; so every topology
that was once read from nodes and edges stays the same. -/
theorem redraw_iff_isDrawable (r : Registry) (t : Topology) :
    (ofCanvas (t.canvasNodes r) t.canvasEdges = .ok t ↔ t.IsDrawable) ∧
      ((∃ nodes edges, ofCanvas nodes edges = .ok t) → ofCanvas (t.canvasNodes r) t.canvasEdges = .ok t) := by
  refine ⟨ofCanvas_canvas_eq_self_iff r, ?_⟩
  rintro ⟨nodes, edges, hread⟩
  exact (ofCanvas_canvas_eq_self_iff r).2 (isDrawable_of_ofCanvas hread)

/-- A node whose members are of all kinds, one whose id is a number, and an edge of an unknown kind. -/
def sketchedNodes : List Value :=
  let row (entries : List (String × Value)) : Value := .mapping (entries.map fun e => entry e.1 e.2)
  [row [("id", .text "a"), ("data", row [("resourceType", .text "redis"), ("instanceName", .int 7),
      ("databaseName", .text ""), ("replicas", .bool true),
      ("envVars", .list [row [("key", .int (-1)), ("value", .null)], row [("key", .text "")], .text "K=v"]),
      ("ports", .list [row [("host", .text ""), ("container", .int 80)], row [("host", .int 80)]]),
      ("volumes", .list [row [("source", .text "./d")], row [("source", .text "c:x"), ("target", .text "/y")]])])],
    row [("id", .int 2), ("data", row [("resourceType", .text "redis")])]]

def sketchedEdges : List Value :=
  [.mapping [entry "source" (.text "a"), entry "target" (.text "b"), entry "kind" (.text "needs")]]

def sketched : Topology where
  instances := [⟨"a", "redis", "7", none, ⟨[⟨"-1", ""⟩], [⟨"80", none⟩], [⟨"c:x", "/y"⟩], none, none⟩⟩]
  connections := [⟨"edge_a_b", "a", "b", .reference⟩]

theorem sketched_redraw : ofCanvas sketchedNodes sketchedEdges = .ok sketched ∧
    ofCanvas (sketched.canvasNodes .standard) sketched.canvasEdges = .ok sketched := by
  have hread : ofCanvas sketchedNodes sketchedEdges = .ok sketched := by decide +kernel
  exact ⟨hread, (redraw_iff_isDrawable .standard sketched).2 ⟨_, _, hread⟩⟩

end Topology
end HostTopology
