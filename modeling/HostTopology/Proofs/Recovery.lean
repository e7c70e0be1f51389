import HostTopology.Proofs.Plain
import HostTopology.Proofs.Reading

/-!
# Recovery — the instances that are read back from an AppHost

Each instance is read back with the part of its configuration that its declaration shows: pairs and
replicas that have calls, no ports, and a lifetime if it is a database server. The declarations are
read three times: for resources, for databases, and statement by statement.

* `firstDraft`, `namedDraft`, `recovered` — an instance after each time;
* `configured_server` — its statement says what is recovered of its configuration.
-/

namespace HostTopology
namespace AppHost

open Catalog Naming Validation

variable {α : Type} {t : Topology} {l : List ResourceInstance} {i : ResourceInstance} {type : ResourceType}
  {category : ResourceCategory}

/-! ## Chains -/

/-- The environment that an instance is read back with. -/
def keptEnvVars (i : ResourceInstance) : List EnvVar :=
  i.config.envVars.filter fun v => present v.key && present v.value

def keptVolumes (i : ResourceInstance) : List VolumeMount :=
  i.config.volumes.filter fun v => present v.source && present v.target

def keptReplicas (i : ResourceInstance) : Option Int :=
  i.config.replicas.filter fun n => 1 < n

theorem filterMap_guard {β : Type} {p : α → Bool} {f : α → β} (l : List α) :
    (l.filterMap fun a => if p a then some (f a) else none) = (l.filter p).map f := by
  induction l with
  | nil => rfl
  | cons a l ih =>
    cases hp : p a with
    | true => simp [hp, ih]
    | false => simp [hp, ih]

theorem filterMap_guard_filter {β : Type} {p : α → Bool} {f : α → β} (l : List α) :
    ((l.filter p).filterMap fun a => if p a then some (f a) else none) =
      l.filterMap fun a => if p a then some (f a) else none := by
  rw [filterMap_guard, filterMap_guard, List.filter_filter]
  simp only [Bool.and_self]

theorem environmentOf_calls (i : ResourceInstance) : i.config.envVars.filterMap environmentOf =
    (keptEnvVars i).map fun v => .environment v.key v.value :=
  filterMap_guard (p := fun v : EnvVar => present v.key && present v.value) _

theorem bindMountOf_calls (i : ResourceInstance) : i.config.volumes.filterMap bindMountOf =
    (keptVolumes i).map fun v => .bindMount v.source v.target :=
  filterMap_guard (p := fun v : VolumeMount => present v.source && present v.target) _

theorem replicasOf_calls (i : ResourceInstance) :
    (i.config.replicas.bind replicasOf).toList = (keptReplicas i).toList.map .replicas := by
  rw [keptReplicas]
  cases i.config.replicas with
  | none => rfl
  | some n =>
    rw [Option.bind_some, replicasOf, Option.filter]
    by_cases hn : 1 < n <;> simp [hn]

/-- What is gathered from the configuration of an instance, apart from its lifetime and its endpoints. -/
theorem flatMap_configChain {read : ChainCall → List α} (hlifetime : read .persistentLifetime = [])
    (hendpoint : ∀ host target, read (.endpoint host target) = []) :
    (configChain i category).flatMap read =
      (defaultChain (shapeOf i.resourceType)).flatMap read
        ++ (keptEnvVars i).flatMap (fun v => read (.environment v.key v.value))
        ++ (keptVolumes i).flatMap (fun v => read (.bindMount v.source v.target))
        ++ (keptReplicas i).toList.flatMap (fun n => read (.replicas n)) := by
  have hkept : (if category = .database ∧ i.config.persistent ≠ some false then [ChainCall.persistentLifetime]
      else []).flatMap read = [] := by
    split <;> simp [hlifetime]
  have hports : (i.config.ports.filterMap endpointOf).flatMap read = [] := by
    rw [List.flatMap_eq_nil_iff]
    intro c hc
    rcases List.mem_filterMap.1 hc with ⟨p, -, hp⟩
    rcases Option.ite_none_right_eq_some.1 hp with ⟨-, heq⟩
    rw [← Option.some.inj heq]
    exact hendpoint _ _
  rw [configChain, environmentOf_calls, bindMountOf_calls, replicasOf_calls]
  simp only [List.flatMap_append, hkept, hports, List.flatMap_map, List.nil_append, List.append_nil]

/-- What is read in the configuration of an instance, where default calls are not read. -/
theorem filterMap_configChain {read : ChainCall → Option α} (hlifetime : read .persistentLifetime = none)
    (henv : read .portFromEnv = none) (hendpoint : ∀ host target, read (.endpoint host target) = none) :
    (configChain i category).filterMap read =
      (keptEnvVars i).filterMap (fun v => read (.environment v.key v.value))
        ++ (keptVolumes i).filterMap (fun v => read (.bindMount v.source v.target))
        ++ (keptReplicas i).toList.filterMap (fun n => read (.replicas n)) := by
  have hdefault : (defaultChain (shapeOf i.resourceType)).flatMap (fun c => (read c).toList) = [] := by
    cases shapeOf i.resourceType <;> simp [defaultChain, henv, hendpoint]
  simp only [List.filterMap_eq_flatMap_toList]
  rw [flatMap_configChain (by simp [hlifetime]) (by simp [hendpoint]), hdefault, List.nil_append]

theorem envVars_configChain : ((configChain i category).filterMap ChainCall.environment?).map
    (fun (k, v) => EnvVar.mk k v) = keptEnvVars i := by
  have hpairs : (configChain i category).filterMap ChainCall.environment? =
      (keptEnvVars i).map fun v => (v.key, v.value) := by
    rw [filterMap_configChain rfl rfl fun _ _ => rfl]
    simp [ChainCall.environment?]
  rw [hpairs, List.map_map]
  exact List.map_id _

theorem volumes_configChain : ((configChain i category).filterMap ChainCall.bindMount?).map
    (fun (s, t) => VolumeMount.mk s t) = keptVolumes i := by
  have hpairs : (configChain i category).filterMap ChainCall.bindMount? =
      (keptVolumes i).map fun v => (v.source, v.target) := by
    rw [filterMap_configChain rfl rfl fun _ _ => rfl]
    simp [ChainCall.bindMount?]
  rw [hpairs, List.map_map]
  exact List.map_id _

theorem replicas_configChain : (configChain i category).filterMap ChainCall.number? = (keptReplicas i).toList := by
  rw [filterMap_configChain rfl rfl fun _ _ => rfl]
  simp [ChainCall.number?]

theorem references_configChain : (configChain i category).filterMap ChainCall.reference? = [] := by
  rw [filterMap_configChain rfl rfl fun _ _ => rfl]
  simp [ChainCall.reference?]

theorem isLifetime_defaultChain {shape : Shape} {c : ChainCall} (h : c ∈ defaultChain shape) :
    c.isLifetime = false := by
  rcases eq_of_mem_defaultChain h with rfl | rfl
  · rfl
  · rfl

/-- Only a database server has a lifetime, and no other call looks like one. -/
theorem lifetime_configChain : (configChain i category).any ChainCall.isLifetime =
    decide (category = .database ∧ i.config.persistent ≠ some false) := by
  rw [Bool.eq_iff_iff, List.any_eq_true, decide_eq_true_iff]
  constructor
  · rintro ⟨c, hc, hlifetime⟩
    refine forall_mem_configChain (P := fun c => c.isLifetime = true →
      category = .database ∧ i.config.persistent ≠ some false) (fun hkept _ => hkept) ?_
        (fun _ _ h => nomatch h) (fun _ _ _ h => nomatch h) (fun _ _ h => nomatch h)
        (fun _ _ _ h => nomatch h) c hc hlifetime
    intro c hdefault hlifetime
    rw [isLifetime_defaultChain hdefault] at hlifetime
    cases hlifetime
  · intro hkept
    refine ⟨.persistentLifetime, ?_, rfl⟩
    simp only [configChain, List.mem_append, if_pos hkept, List.mem_singleton, true_or]

/-! ### References -/

theorem filterMap_of_isLink {read : ChainCall → Option α} {links : List ChainCall}
    (hlinks : ∀ c ∈ links, c.isLink = true) (hreference : ∀ name, read (.reference name) = none)
    (hwait : ∀ name, read (.waitFor name) = none) : links.filterMap read = [] := by
  rw [List.filterMap_eq_nil_iff]
  intro c hc
  have hlink := hlinks c hc
  cases c with
  | reference name => exact hreference name
  | waitFor name => exact hwait name
  | _ => cases hlink

/-- Calls that use a variable say nothing about the configuration. -/
theorem configured_append {s : Statement} {links : List ChainCall} (hlinks : ∀ c ∈ links, c.isLink = true)
    (config : ResourceConfig) :
    Statement.configured { s with chain := s.chain ++ links } config = s.configured config := by
  -- no link is one of the calls that are looked for
  have henv : links.filterMap ChainCall.environment? = [] :=
    filterMap_of_isLink hlinks (fun _ => rfl) fun _ => rfl
  have hvolumes : links.filterMap ChainCall.bindMount? = [] :=
    filterMap_of_isLink hlinks (fun _ => rfl) fun _ => rfl
  have hnumbers : links.filterMap ChainCall.number? = [] :=
    filterMap_of_isLink hlinks (fun _ => rfl) fun _ => rfl
  have hlifetime : links.any ChainCall.isLifetime = false := by
    rw [List.any_eq_false]
    intro c hc
    have hlink := hlinks c hc
    cases c with
    | persistentLifetime => cases hlink
    | _ => exact Bool.false_ne_true
  simp only [Statement.configured, Statement.envVars, Statement.volumes, Statement.replicas?,
    Statement.isPersistent, List.filterMap_append, List.any_append, henv, hvolumes, hnumbers, hlifetime,
    List.append_nil, Bool.or_false]

theorem configured_of_isLink {s : Statement} (hchain : ∀ c ∈ s.chain, c.isLink = true)
    (config : ResourceConfig) : s.configured config = config := by
  have happend := configured_append (s := { s with chain := [] }) hchain config
  rw [List.nil_append] at happend
  rw [happend]
  simp [Statement.configured, Statement.envVars, Statement.volumes, Statement.replicas?,
    Statement.isPersistent, Reading.setLifetime, Reading.setReplicas, Reading.extend]

/-! ## Statements of an instance -/

theorem receiver_openingCall (i : ResourceInstance) (method name : String) :
    (openingCall i method name).receiver = "builder" := by
  rw [openingCall]
  cases shapeOf i.resourceType <;> rfl

theorem name_openingCall (i : ResourceInstance) (method name : String) :
    (openingCall i method name).name = i.name := by
  rw [openingCall]
  cases shapeOf i.resourceType <;> rfl

def statementsOf (t : Topology) (i : ResourceInstance) : List Statement :=
  (declare? .standard t i).toList.flatMap Declaration.statements

def segmentsOf (t : Topology) (i : ResourceInstance) : List Segment :=
  (declare? .standard t i).toList.flatMap Declaration.segments

/-- The statement that adds a resource, with the calls after its configuration. -/
def serverStatement (i : ResourceInstance) (type : ResourceType) (chain : List ChainCall) : Statement :=
  ⟨variableName i.name, openingCall i type.builder.name (variableName i.name),
    configChain i type.category ++ chain⟩

def databaseStatement (t : Topology) (i : ResourceInstance) (database : String) : Statement :=
  ⟨variableName database, .database (variableName i.name) database, referenceChain .standard t i.id⟩

theorem declare?_of_database {database : String} (hname : i.name ≠ "")
    (htype : Registry.standard.find? i.resourceType = some type)
    (hdatabase : Registry.standard.databaseOf? i = some database) : declare? .standard t i =
      some ⟨type.displayName, [serverStatement i type [], databaseStatement t i database]⟩ := by
  have hpresent : present i.name = true := by simpa [present] using hname
  simp [declare?, hpresent, htype, hdatabase, serverStatement, databaseStatement]

theorem declare?_of_no_database (hname : i.name ≠ "")
    (htype : Registry.standard.find? i.resourceType = some type)
    (hdatabase : Registry.standard.databaseOf? i = none) : declare? .standard t i =
      some ⟨type.displayName, [serverStatement i type (referenceChain .standard t i.id)]⟩ := by
  have hpresent : present i.name = true := by simpa [present] using hname
  simp [declare?, hpresent, htype, hdatabase, serverStatement]

theorem statementsOf_of_database {database : String} (hname : i.name ≠ "")
    (htype : Registry.standard.find? i.resourceType = some type)
    (hdatabase : Registry.standard.databaseOf? i = some database) :
    statementsOf t i = [serverStatement i type [], databaseStatement t i database] := by
  rw [statementsOf, declare?_of_database hname htype hdatabase]
  rfl

theorem statementsOf_of_no_database (hname : i.name ≠ "")
    (htype : Registry.standard.find? i.resourceType = some type)
    (hdatabase : Registry.standard.databaseOf? i = none) :
    statementsOf t i = [serverStatement i type (referenceChain .standard t i.id)] := by
  rw [statementsOf, declare?_of_no_database hname htype hdatabase]
  rfl

theorem segmentsOf_of_database {database : String} (hname : i.name ≠ "")
    (htype : Registry.standard.find? i.resourceType = some type)
    (hdatabase : Registry.standard.databaseOf? i = some database) : segmentsOf t i =
      [⟨['\n', '\n'], serverStatement i type []⟩, ⟨['\n'], databaseStatement t i database⟩] := by
  rw [segmentsOf, declare?_of_database hname htype hdatabase]
  rfl

theorem segmentsOf_of_no_database (hname : i.name ≠ "")
    (htype : Registry.standard.find? i.resourceType = some type)
    (hdatabase : Registry.standard.databaseOf? i = none) : segmentsOf t i =
      [⟨['\n', '\n'], serverStatement i type (referenceChain .standard t i.id)⟩] := by
  rw [segmentsOf, declare?_of_no_database hname htype hdatabase]
  rfl

/-! ## Drafts -/

/-- A resource as it is first read. -/
def firstDraft (i : ResourceInstance) : Draft where
  resourceType := i.resourceType
  name := i.name
  database := none
  config := { ResourceConfig.empty with
    persistent := if Registry.standard.categoryOf? i = some .database then some false else none }

/-- A resource with its database. -/
def namedDraft (i : ResourceInstance) : Draft :=
  { firstDraft i with database := Registry.standard.databaseOf? i }

/-- What an AppHost says about the configuration of an instance. -/
def recoveredConfig (i : ResourceInstance) : ResourceConfig where
  envVars := keptEnvVars i
  ports := []
  volumes := keptVolumes i
  replicas := keptReplicas i
  persistent := if Registry.standard.categoryOf? i = some .database then
    some (decide (i.config.persistent ≠ some false)) else none

def recovered (i : ResourceInstance) : Draft :=
  { namedDraft i with config := recoveredConfig i }

theorem draftOf_eq (htype : Registry.standard.find? i.resourceType = some type) :
    Reading.draftOf type i.name = firstDraft i := by
  have hid := (Registry.mem_types htype).2
  have hcategory := Registry.categoryOf?_eq htype
  rw [Reading.draftOf, firstDraft, hid, hcategory]
  simp only [Option.some.injEq]

theorem configured_server {links : List ChainCall} (hlinks : ∀ c ∈ links, c.isLink = true)
    (htype : Registry.standard.find? i.resourceType = some type) :
    (serverStatement i type links).configured (namedDraft i).config = recoveredConfig i := by
  have hcategory := Registry.categoryOf?_eq htype
  have happend := configured_append (s := serverStatement i type []) hlinks (namedDraft i).config
  have hchain : (serverStatement i type []).chain = configChain i type.category := by
    rw [serverStatement, List.append_nil]
  have hserver : serverStatement i type links =
      { serverStatement i type [] with chain := (serverStatement i type []).chain ++ links } := by
    rw [hchain]
    rfl
  have hhead : (keptReplicas i).toList.head? = keptReplicas i := by
    cases keptReplicas i <;> rfl
  -- references and what is waited for change nothing, so only the configuration's calls count
  rw [hserver, happend, Statement.configured, Statement.envVars, Statement.volumes, Statement.replicas?,
    Statement.isPersistent, hchain, envVars_configChain, volumes_configChain, replicas_configChain,
    lifetime_configChain, hhead]
  rw [recoveredConfig, hcategory, namedDraft, firstDraft, hcategory]
  -- a server begins as not persistent, and only a lifetime makes it so
  by_cases hdatabase : type.category = .database
  · by_cases hkept : i.config.persistent = some false
    · simp [Reading.setLifetime, Reading.setReplicas, Reading.extend, ResourceConfig.empty, hdatabase, hkept]
    · simp [Reading.setLifetime, Reading.setReplicas, Reading.extend, ResourceConfig.empty, hdatabase, hkept]
  · simp [Reading.setLifetime, Reading.setReplicas, Reading.extend, ResourceConfig.empty, hdatabase]

end AppHost
end HostTopology
