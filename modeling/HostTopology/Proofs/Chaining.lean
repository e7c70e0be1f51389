import HostTopology.Proofs.Quoting

/-!
# Chaining — calls that the type of a resource has

A declaration chains a call to whatever its instance is configured with. The catalog lists for each type
the methods that can be chained to it, but validation looks only for references in these lists.

* `forall_configChain_iff` — what the calls of a configuration are;
* `chaining_types` — the lists of the catalog, read method by method;
* `Suits` — an instance that is configured with nothing that its type has no method for;
* `chains_supported_iff` — an AppHost chains supported methods only exactly if all instances suit their types.
-/

namespace HostTopology
namespace AppHost

open Validation Catalog

variable {r : Registry} {t : Topology} {i : ResourceInstance} {d : Declaration} {type : ResourceType}
  {category : ResourceCategory} {c : ChainCall}

/-! ## The calls of a declaration -/

/-- The ports that a declaration shows. -/
def keptPorts (i : ResourceInstance) : List PortMapping :=
  i.config.ports.filter fun p => present p.container

theorem endpointOf_calls (i : ResourceInstance) : i.config.ports.filterMap endpointOf =
    (keptPorts i).map fun p => .endpoint (p.host.filter present) p.container :=
  filterMap_guard (p := fun p : PortMapping => present p.container) _

/-- What holds of the calls of a configuration, by what it is configured. -/
theorem forall_configChain_iff {P : ChainCall → Prop} : (∀ c ∈ configChain i category, P c) ↔
    (category = .database ∧ i.config.persistent ≠ some false → P .persistentLifetime) ∧
      (∀ c ∈ defaultChain (shapeOf i.resourceType), P c) ∧
      (∀ v ∈ keptEnvVars i, P (.environment v.key v.value)) ∧
      (∀ p ∈ keptPorts i, P (.endpoint (p.host.filter present) p.container)) ∧
      (∀ v ∈ keptVolumes i, P (.bindMount v.source v.target)) ∧
      ∀ n ∈ keptReplicas i, P (.replicas n) := by
  have hlifetime : (∀ c ∈ if category = .database ∧ i.config.persistent ≠ some false then
        [ChainCall.persistentLifetime] else [], P c) ↔
      (category = .database ∧ i.config.persistent ≠ some false → P .persistentLifetime) := by
    split
    · rename_i hkept
      simp [hkept]
    · rename_i hkept
      simp [hkept]
  rw [configChain, environmentOf_calls, endpointOf_calls, bindMountOf_calls, replicasOf_calls]
  simp only [List.forall_mem_append, List.forall_mem_map, hlifetime, Option.mem_toList, Option.mem_def, and_assoc]

/-! ## Methods of the catalog -/

/-- Configurations need methods that only some types have. Lifetimes, default calls and what goes with a
reference are for types that have the method. -/
theorem chaining_types : ∀ type ∈ resourceTypes,
    (type.category = .database → "WithLifetime" ∈ type.chaining) ∧
      (∀ c ∈ defaultChain (shapeOf type.id), c.method ∈ type.chaining) ∧
      ("WithEnvironment" ∈ type.chaining ↔ type.id ≠ "openai") ∧
      ("WithHttpEndpoint" ∈ type.chaining ↔ type.category = .project ∨ type.category = .container) ∧
      ("WithBindMount" ∈ type.chaining ↔ type.category ≠ .project ∧ type.id ≠ "openai") ∧
      ("WithReplicas" ∈ type.chaining ↔ type.category = .project ∨ type.category = .container) ∧
      ("WithReference" ∈ type.chaining → "WaitFor" ∈ type.chaining) := by
  decide

theorem supportsChaining_iff (h : r.find? i.resourceType = some type) (method : String) :
    r.supportsChaining i.resourceType method = true ↔ method ∈ type.chaining := by
  simp [Registry.supportsChaining, h]

/-- An instance without configuration that its type has no method for. -/
structure Suits (i : ResourceInstance) (type : ResourceType) : Prop where
  environment : keptEnvVars i ≠ [] → type.id ≠ "openai"
  endpoints : keptPorts i ≠ [] → type.category = .project ∨ type.category = .container
  bindMounts : keptVolumes i ≠ [] → type.category ≠ .project ∧ type.id ≠ "openai"
  replicas : keptReplicas i ≠ none → type.category = .project ∨ type.category = .container

theorem supported_configChain_iff (h : Registry.standard.find? i.resourceType = some type) :
    (∀ c ∈ configChain i type.category, c.method ∈ type.chaining) ↔ Suits i type := by
  rcases Registry.mem_types h with ⟨hmem, hid⟩
  obtain ⟨hlifetime, hdefault, henvironment, hendpoint, hmount, hreplicas, -⟩ := chaining_types type hmem
  -- every call of one kind has the same method
  have heach : ∀ {α : Type} (l : List α) {Q : Prop}, (∀ x ∈ l, Q) ↔ (l ≠ [] → Q) := by
    intro α l Q
    rw [List.ne_nil_iff_exists_cons]
    constructor
    · rintro h ⟨x, xs, rfl⟩
      exact h x List.mem_cons_self
    · intro h x hx
      exact h (List.exists_cons_of_ne_nil (List.ne_nil_of_mem hx))
  have hcount : ∀ {Q : Prop}, (∀ n ∈ keptReplicas i, Q) ↔ (keptReplicas i ≠ none → Q) := by
    intro Q
    cases keptReplicas i <;> simp
  rw [forall_configChain_iff]
  simp only [ChainCall.method, heach, hcount, henvironment, hendpoint, hmount, hreplicas]
  constructor
  · rintro ⟨-, -, henv, hports, hvolumes, hreplicas⟩
    exact ⟨henv, hports, hvolumes, hreplicas⟩
  · rintro ⟨henv, hports, hvolumes, hreplicas⟩
    exact ⟨fun hkept => hlifetime hkept.1, hid ▸ hdefault, henv, hports, hvolumes, hreplicas⟩

/-- Validation sees to it that what is connected can be referred to. -/
theorem supported_referenceChain (hfaultless : Faultless .standard t) (hi : i ∈ t.instances)
    (h : Registry.standard.find? i.resourceType = some type) :
    ∀ c ∈ referenceChain .standard t i.id, c.method ∈ type.chaining := by
  intro c hc
  have hreference : "WithReference" ∈ type.chaining := by
    rcases checkReference_eq_nil_iff.1 (hfaultless.methods i hi type h).2 with hnone | hsupported
    · simp [referenceChain, hnone] at hc
    · exact (supportsChaining_iff h _).1 hsupported
  obtain ⟨-, -, -, -, -, -, hwait⟩ := chaining_types type (Registry.mem_types h).1
  exact forall_mem_referenceChain (P := fun c => c.method ∈ type.chaining) (fun _ => hreference)
    (fun _ => hwait hreference) c hc

end AppHost

/-! ## Generated code -/

open AppHost Validation Catalog

variable {t : Topology} {o : RenderOptions} {a : Artifacts}

/-- Every method that an AppHost chains to a declaration is supported by the type of the instance exactly if
the instances that are declared suit their types. -/
theorem chains_supported_iff (hok : t.compile .standard o = .ok a) (hblocked : a.isBlocked = false) :
    a.appHost = AppHost.render .standard t o t.sequence.ordered ∧
      ((∀ i ∈ t.sequence.ordered, ∀ d, declare? .standard t i = some d → ∀ s ∈ d.statements, ∀ c ∈ s.chain,
          Registry.standard.supportsChaining i.resourceType c.method = true) ↔
        ∀ i ∈ t.sequence.ordered, ∀ type, Registry.standard.find? i.resourceType = some type → Suits i type) := by
  rcases compile_unblocked_iff.1 ⟨hok, hblocked⟩ with ⟨hfaultless, -, rfl⟩
  refine ⟨rfl, forall₂_congr fun i hi => ?_⟩
  have hmem := Topology.mem_of_mem_ordered hi
  have hcalls : ∀ d type, declare? .standard t i = some d → Registry.standard.find? i.resourceType = some type →
      ((∀ s ∈ d.statements, ∀ c ∈ s.chain,
        Registry.standard.supportsChaining i.resourceType c.method = true) ↔ Suits i type) := by
    intro d type hd htype
    obtain ⟨type', htype', hchain⟩ := exists_chain_of_declare? hd
    obtain rfl : type' = type := Option.some.inj (htype'.symm.trans htype)
    calc (∀ s ∈ d.statements, ∀ c ∈ s.chain, Registry.standard.supportsChaining i.resourceType c.method = true)
        ↔ ∀ c ∈ d.statements.flatMap Statement.chain, c.method ∈ type'.chaining := by
          simp only [List.forall_mem_flatMap, supportsChaining_iff htype]
      _ ↔ ∀ c ∈ configChain i type'.category, c.method ∈ type'.chaining := by
          rw [hchain, List.forall_mem_append]
          exact and_iff_left (supported_referenceChain hfaultless hmem htype)
      _ ↔ Suits i type' := supported_configChain_iff htype
  constructor
  · intro h type htype
    have hknown : (Registry.standard.find? i.resourceType).isSome := by rw [htype, Option.isSome_some]
    obtain ⟨d, hd⟩ := Option.isSome_iff_exists.1 (hfaultless.isSome_declare? hmem hknown)
    exact (hcalls d type hd htype).1 (h d hd)
  · intro h d hd
    obtain ⟨type, htype⟩ := Option.isSome_iff_exists.1 (isSome_find?_of_declare? hd)
    exact (hcalls d type hd htype).2 (h type htype)

theorem greeting_supported : ∃ a, (greeting "hello").compile .standard .standard = .ok a ∧ a.isBlocked = false ∧
    ∀ i ∈ (greeting "hello").sequence.ordered, ∀ d, declare? .standard (greeting "hello") i = some d →
      ∀ s ∈ d.statements, ∀ c ∈ s.chain,
        Registry.standard.supportsChaining i.resourceType c.method = true := by
  have hok := greeting_compile "hello" (by decide)
  obtain ⟨-, hiff⟩ := chains_supported_iff hok isBlocked_ofOrdered
  refine ⟨_, hok, isBlocked_ofOrdered, hiff.2 fun i hi type htype => ?_⟩
  have hcache : ∀ i ∈ (greeting "hello").instances,
      i.resourceType = "redis" ∧ keptPorts i = [] ∧ keptReplicas i = none := by decide
  obtain ⟨hredis, hports, hreplicas⟩ := hcache i (Topology.mem_of_mem_ordered hi)
  have htypes : ∀ type, Registry.standard.find? "redis" = some type →
      type.id ≠ "openai" ∧ type.category ≠ .project := by
    intro type htype
    rw [← Option.some.inj htype]
    decide
  obtain ⟨hid, hcategory⟩ := htypes type (hredis ▸ htype)
  exact ⟨fun _ => hid, fun h => absurd hports h, fun _ => ⟨hcategory, hid⟩, fun h => absurd hreplicas h⟩

/-- A cache with a port. -/
def exposed (host : Option String) (container : String) : Topology where
  instances := [⟨"cache", "redis", "cache", none, ⟨[], [⟨container, host⟩], [], none, none⟩⟩]
  connections := []

theorem exposed_compile : ∀ host ∈ [none, some "70000"], (exposed host "6379").compile .standard .standard =
    .ok (.ofOrdered .standard .standard (exposed host "6379") (exposed host "6379").sequence.ordered) := by
  have hpasses : ∀ host ∈ [none, some "70000"], PassesRules .standard (exposed host "6379") ∧
      Writable .standard .standard (exposed host "6379") (exposed host "6379").sequence.ordered := by decide
  intro host hhost
  obtain ⟨hrules, hwritable⟩ := hpasses host hhost
  exact compile_of_passesRules hrules acyclic_nil hwritable

/-- Caches have no method for endpoints, and get one all the same. -/
theorem exposed_not_supported : ∃ a, (exposed none "6379").compile .standard .standard = .ok a ∧
    a.isBlocked = false ∧ ∃ i ∈ (exposed none "6379").sequence.ordered,
      ∃ d, declare? .standard (exposed none "6379") i = some d ∧ ∃ s ∈ d.statements, ∃ c ∈ s.chain,
        Registry.standard.supportsChaining i.resourceType c.method = false := by
  have hordered : (exposed none "6379").sequence.ordered = (exposed none "6379").instances := by decide
  have hunsupported : Registry.standard.supportsChaining "redis" "WithHttpEndpoint" = false := by decide
  refine ⟨_, exposed_compile none (by simp), isBlocked_ofOrdered, ?_⟩
  rw [hordered]
  exact ⟨_, List.mem_cons_self, _, rfl, _, List.mem_cons_self, .endpoint none "6379", List.mem_cons_self,
    hunsupported⟩

end HostTopology
