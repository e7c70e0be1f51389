import HostTopology.Proofs.Acceptance
import HostTopology.Proofs.Chaining

/-!
# Constraints — arguments that the parameters of the catalog allow

The catalog says what the parameters of a method take. Validation holds some arguments against it before
there is any code: the name of an instance, and a number for its first port. This file asks the same of
all names and numbers in the code itself:

* `numeral?`, `IsPortLiteral` — numbers as they can stand in code;
* `OpeningCall.Accepted`, `ChainCall.Accepted` — a call whose name, or whose numbers, its parameters allow;
* `IsBounded` — an instance whose database, ports and replicas keep within the catalog;
* `arguments_accepted_iff` — the calls of an AppHost are accepted exactly if all instances are bounded.
-/

namespace HostTopology

open Catalog Validation AppHost

variable {r : Registry} {t : Topology} {i : ResourceInstance} {d : Declaration} {type : ResourceType}
  {p : Parameter} {s : String}

/-! ## Numerals -/

/-- The number that a row of digits denotes in code, where only ASCII digits are digits. -/
def numeral? (s : String) : Option Nat :=
  if s ≠ "" ∧ ∀ c ∈ s.toList, c.isDigit = true then some (Nat.ofDigitChars 10 s.toList 0) else none

theorem numeral?_toString {n : Int} (h : 1 < n) : numeral? (toString n) = some n.natAbs := by
  have htext := toString_eq_toDigits h
  have hdigits : ∀ c ∈ Nat.toDigits 10 n.natAbs, c.isDigit = true := by
    intro c hc
    exact Nat.isDigit_of_mem_toDigits (by decide) (by decide) hc
  have hne : toString n ≠ "" := by
    intro hempty
    rw [hempty] at htext
    exact Nat.toDigits_ne_nil htext.symm
  rw [numeral?, htext, if_pos ⟨hne, hdigits⟩, Nat.ofDigitChars_ten_toDigits]

/-- The number of a port, as code can have it. -/
def IsPortLiteral (s : String) : Prop :=
  ∃ n ∈ numeral? s, 1 ≤ n ∧ n ≤ 65535

instance (s : String) : Decidable (IsPortLiteral s) :=
  inferInstanceAs (Decidable (∃ n ∈ numeral? s, _))

/-- Validation reads the digits of every script. -/
theorem IsPortNumber.isPortLiteral_iff (h : IsPortNumber s) :
    IsPortLiteral s ↔ ∀ c ∈ s.toList, c.isDigit = true := by
  constructor
  · rintro ⟨n, hn, -⟩ c hc
    rw [Option.mem_def, numeral?, Option.ite_none_right_eq_some] at hn
    exact hn.1.2 c hc
  · intro hdigits
    rcases h with ⟨n, hn, hleast, hmost⟩
    have hne : s ≠ "" := by
      rintro rfl
      rw [show n = 0 from Option.some.inj hn.symm] at hleast
      exact absurd hleast (by decide)
    rw [Text.decimalNumeral?, Text.foldlM_decimalValue? hdigits] at hn
    refine ⟨n, ?_, hleast, hmost⟩
    rw [Option.mem_def, numeral?, if_pos ⟨hne, hdigits⟩, hn]

theorem check_between_iff {least most n : Int} (hc : p.constraints = some (.between least most)) :
    p.check (.int n) = [] ↔ least ≤ n ∧ n ≤ most := by
  simp [Parameter.check, isMissing, hc, Constraints.check, Constraints.checkNumber, Constraints.checkAllowed,
    Constraints.between, Constraints.unconstrained, against, isBelow, isAbove]

/-! ## Calls whose arguments are allowed -/

/-- The method of a type, or of what can be declared on it. -/
def Catalog.ResourceType.method? (type : ResourceType) (name : String) : Option ApiMethod :=
  (type.builder :: type.children).find? fun m => m.name = name

namespace AppHost

def OpeningCall.Accepted (type : ResourceType) (call : OpeningCall) : Prop :=
  ∃ m ∈ type.method? call.method, ∃ p ∈ m.parameter? "name", p.check (.text call.name) = []

/-- The numbers of a call, each under the name of its parameter. -/
def ChainCall.numerals : ChainCall → List (String × String)
  | endpoint host target => host.toList.map (fun host => ("port", host)) ++ [("targetPort", target)]
  | replicas count => [("count", toString count)]
  | _ => []

def ChainCall.Accepted (c : ChainCall) : Prop :=
  ∀ e ∈ c.numerals, ∃ m ∈ Registry.standard.chainingMethod? c.method, ∃ p ∈ m.method.parameter? e.1,
    ∃ n ∈ numeral? e.2, p.check (.int n) = []

/-- The parameters that the catalog has for the numbers of a call, with their ranges. -/
theorem exists_parameter : ∀ e ∈ [("WithHttpEndpoint", "port", 65535), ("WithHttpEndpoint", "targetPort", 65535),
      ("WithReplicas", "count", (100 : Int))],
    ∃ m ∈ Registry.standard.chainingMethod? e.1, ∃ p ∈ m.method.parameter? e.2.1,
      p.constraints = some (.between 1 e.2.2) := by
  decide

theorem accepted_iff_of_range {method parameter : String} {most : Int}
    (h : ∃ m ∈ Registry.standard.chainingMethod? method, ∃ p ∈ m.method.parameter? parameter,
      p.constraints = some (.between 1 most)) :
    (∃ m ∈ Registry.standard.chainingMethod? method, ∃ p ∈ m.method.parameter? parameter,
      ∃ n ∈ numeral? s, p.check (.int n) = []) ↔ ∃ n ∈ numeral? s, 1 ≤ n ∧ (n : Int) ≤ most := by
  rcases h with ⟨m, hm, p, hp, hc⟩
  have hvalue : ∀ n : Nat, p.check (.int n) = [] ↔ 1 ≤ n ∧ (n : Int) ≤ most := by
    intro n
    rw [check_between_iff hc]
    omega
  -- the catalog has one method and one parameter of the name
  constructor
  · rintro ⟨m', hm', p', hp', n, hn, hcheck⟩
    obtain rfl : m' = m := Option.mem_unique hm' hm
    obtain rfl : p' = p := Option.mem_unique hp' hp
    exact ⟨n, hn, (hvalue n).1 hcheck⟩
  · rintro ⟨n, hn, hrange⟩
    exact ⟨m, hm, p, hp, n, hn, (hvalue n).2 hrange⟩

theorem accepted_endpoint_iff {host : Option String} {target : String} :
    (ChainCall.endpoint host target).Accepted ↔ (∀ host' ∈ host, IsPortLiteral host') ∧ IsPortLiteral target := by
  have hport : ∀ s : String, (∃ n ∈ numeral? s, 1 ≤ n ∧ (n : Int) ≤ 65535) ↔ IsPortLiteral s := by
    intro s
    have hcast : ∀ n : Nat, (n : Int) ≤ 65535 ↔ n ≤ 65535 := by omega
    simp only [hcast, IsPortLiteral]
  simp only [ChainCall.Accepted, ChainCall.numerals, ChainCall.method, List.forall_mem_append,
    List.forall_mem_map, List.forall_mem_singleton, Option.mem_toList,
    accepted_iff_of_range (exists_parameter ("WithHttpEndpoint", "port", 65535) (by simp)),
    accepted_iff_of_range (exists_parameter ("WithHttpEndpoint", "targetPort", 65535) (by simp)), hport]
  exact Iff.rfl

theorem accepted_replicas_iff {n : Int} (h : 1 < n) : (ChainCall.replicas n).Accepted ↔ n ≤ 100 := by
  simp only [ChainCall.Accepted, ChainCall.numerals, ChainCall.method, List.forall_mem_singleton,
    accepted_iff_of_range (exists_parameter ("WithReplicas", "count", 100) (by simp))]
  rw [numeral?_toString h]
  constructor
  · rintro ⟨m, hm, -, hmost⟩
    rw [← Option.some.inj hm] at hmost
    omega
  · intro hmost
    exact ⟨n.natAbs, rfl, by omega, by omega⟩

theorem accepted_of_numerals_eq_nil {c : ChainCall} (h : c.numerals = []) : c.Accepted := by
  intro e he
  rw [h] at he
  exact absurd he List.not_mem_nil

/-! ## Opening calls -/

/-- A resource is opened under its name, and its database, if it has one, under the name of that. -/
theorem map_opening_of_declare? (h : declare? r t i = some d) (htype : r.find? i.resourceType = some type) :
    d.statements.map Statement.opening =
      openingCall i type.builder.name (Naming.variableName i.name) ::
        (r.databaseOf? i).toList.map (.database (Naming.variableName i.name)) := by
  obtain ⟨type', htype', hstatements⟩ := declare?_cases h
  obtain rfl := Option.some.inj (htype'.symm.trans htype)
  rcases hstatements with ⟨database, hdatabase, rfl⟩ | ⟨hnone, rfl⟩
  · rw [hdatabase]
    rfl
  · rw [hnone]
    rfl

/-- Names of resources are checked by validation. -/
theorem accepted_openingCall (hfaultless : Faultless .standard t) (hi : i ∈ t.instances)
    (htype : Registry.standard.find? i.resourceType = some type) (name : String) :
    (openingCall i type.builder.name name).Accepted type := by
  have hparameters : ∀ type ∈ resourceTypes, (type.builder.parameter? "name").isSome := by decide
  obtain ⟨p, hp⟩ := Option.isSome_iff_exists.1 (hparameters type (Registry.mem_types htype).1)
  have hcheck := checkNameParameter_eq_nil_iff.1 (hfaultless.nameParameters i hi) type htype p hp
    (hfaultless.name_ne_empty hi)
  refine ⟨type.builder, ?_, p, hp, ?_⟩
  · rw [method_openingCall htype]
    simp [ResourceType.method?]
  · rwa [name_openingCall]

/-- The name of a database is checked for its form only, not for its length. -/
theorem accepted_database_iff {server database : String} (hid : isIdentifier database = true)
    (hmem : type ∈ resourceTypes) (hchild : (type.child? "AddDatabase").isSome) :
    (OpeningCall.database server database).Accepted type ↔
      ∀ limit, type.nameLimit? = some limit → (database.length : Int) ≤ limit := by
  have hall : ∀ type ∈ resourceTypes, (type.child? "AddDatabase").isSome →
      ∃ m ∈ type.method? "AddDatabase", ∃ p ∈ m.parameter? "name", ∃ limit ∈ type.nameLimit?,
        p.constraints = some (.identifier limit) := by decide
  obtain ⟨m, hm, p, hp, limit, hlimit, hc⟩ := hall type hmem hchild
  have hcheck := check_identifier hc (ne_empty_of_isIdentifier hid)
  constructor
  · rintro ⟨m', hm', p', hp', hnil⟩ limit' hlimit'
    obtain rfl : m' = m := Option.mem_unique hm' hm
    obtain rfl : p' = p := Option.mem_unique hp' hp
    obtain rfl : limit' = limit := Option.mem_unique hlimit' hlimit
    exact (hcheck.1 hnil).1
  · intro hlength
    exact ⟨m, hm, p, hp, hcheck.2 ⟨hlength limit hlimit, hid⟩⟩

/-! ## Instances within bounds -/

/-- An instance that stays within the catalog, where validation does not look. -/
structure IsBounded (i : ResourceInstance) (type : ResourceType) : Prop where
  database : ∀ database, Registry.standard.databaseOf? i = some database →
    ∀ limit, type.nameLimit? = some limit → (database.length : Int) ≤ limit
  containers : ∀ p ∈ keptPorts i, ∀ c ∈ p.container.toList, c.isDigit = true
  hosts : ∀ p ∈ keptPorts i, ∀ host ∈ p.host.filter present, IsPortLiteral host
  replicas : ∀ n ∈ keptReplicas i, n ≤ 100

theorem isPortNumber_of_mem_keptPorts (hfaultless : Faultless .standard t) (hi : i ∈ t.instances)
    (hknown : (Registry.standard.find? i.resourceType).isSome) {q : PortMapping} (hq : q ∈ keptPorts i) :
    IsPortNumber q.container := by
  rcases List.mem_filter.1 hq with ⟨hq, hpresent⟩
  exact hfaultless.wellFormed.ports i hi hknown q hq (by simpa [present] using hpresent)

theorem accepted_defaultChain {shape : Shape} : ∀ c ∈ defaultChain shape, c.Accepted := by
  intro c hc
  rcases eq_of_mem_defaultChain hc with rfl | rfl
  · exact accepted_of_numerals_eq_nil rfl
  · have hdefault : IsPortLiteral "8080" := by decide
    exact accepted_endpoint_iff.2 ⟨fun _ h => (nomatch h), hdefault⟩

theorem accepted_configChain_iff (hfaultless : Faultless .standard t) (hi : i ∈ t.instances)
    (hknown : (Registry.standard.find? i.resourceType).isSome) {category : ResourceCategory} :
    (∀ c ∈ configChain i category, c.Accepted) ↔
      (∀ p ∈ keptPorts i, ∀ c ∈ p.container.toList, c.isDigit = true) ∧
        (∀ p ∈ keptPorts i, ∀ host ∈ p.host.filter present, IsPortLiteral host) ∧
          ∀ n ∈ keptReplicas i, n ≤ 100 := by
  have hlifetime : ChainCall.persistentLifetime.Accepted := accepted_of_numerals_eq_nil rfl
  have henvironment : ∀ key value, (ChainCall.environment key value).Accepted :=
    fun _ _ => accepted_of_numerals_eq_nil rfl
  have hmount : ∀ source target, (ChainCall.bindMount source target).Accepted :=
    fun _ _ => accepted_of_numerals_eq_nil rfl
  have hports : (∀ p ∈ keptPorts i, (ChainCall.endpoint (p.host.filter present) p.container).Accepted) ↔
      (∀ p ∈ keptPorts i, ∀ c ∈ p.container.toList, c.isDigit = true) ∧
        ∀ p ∈ keptPorts i, ∀ host ∈ p.host.filter present, IsPortLiteral host := by
    rw [← forall₂_and]
    refine forall₂_congr fun p hp => ?_
    rw [accepted_endpoint_iff, (isPortNumber_of_mem_keptPorts hfaultless hi hknown hp).isPortLiteral_iff, and_comm]
  have hreplicas : (∀ n ∈ keptReplicas i, (ChainCall.replicas n).Accepted) ↔ ∀ n ∈ keptReplicas i, n ≤ 100 := by
    refine forall₂_congr fun n hn => accepted_replicas_iff ?_
    -- a count is written only if it is more than one
    simpa using (Option.filter_eq_some_iff.1 hn).2
  rw [forall_configChain_iff, hports, hreplicas]
  simp only [hlifetime, henvironment, hmount, implies_true, true_and, and_assoc]
  exact and_iff_right accepted_defaultChain

/-- A declaration is accepted if its instance is bounded. -/
theorem accepted_declaration_iff (hfaultless : Faultless .standard t) (hi : i ∈ t.instances)
    (htype : Registry.standard.find? i.resourceType = some type) (h : declare? .standard t i = some d) :
    (∀ s ∈ d.statements, s.opening.Accepted type ∧ ∀ c ∈ s.chain, c.Accepted) ↔ IsBounded i type := by
  have hknown : (Registry.standard.find? i.resourceType).isSome := by rw [htype, Option.isSome_some]
  have hopening : (∀ opening ∈ d.statements.map Statement.opening, opening.Accepted type) ↔
      ∀ database, Registry.standard.databaseOf? i = some database →
        ∀ limit, type.nameLimit? = some limit → (database.length : Int) ≤ limit := by
    -- only the name of the database has not been checked
    rw [map_opening_of_declare? h htype, List.forall_mem_cons]
    simp only [accepted_openingCall hfaultless hi htype, true_and, List.forall_mem_map, Option.mem_toList]
    refine forall₂_congr fun database hdatabase => ?_
    have hallows := (databaseOf?_eq_some_iff.1 hdatabase).1
    have hchild : (type.child? "AddDatabase").isSome := by
      simpa [Registry.allowsDatabase, htype] using hallows
    exact accepted_database_iff (hfaultless.isIdentifier_database hi hdatabase) (Registry.mem_types htype).1 hchild
  have hchain : (∀ c ∈ d.statements.flatMap Statement.chain, c.Accepted) ↔
      (∀ p ∈ keptPorts i, ∀ c ∈ p.container.toList, c.isDigit = true) ∧
        (∀ p ∈ keptPorts i, ∀ host ∈ p.host.filter present, IsPortLiteral host) ∧
          ∀ n ∈ keptReplicas i, n ≤ 100 := by
    -- references have no numbers
    obtain ⟨type', -, heq⟩ := exists_chain_of_declare? h
    rw [heq, List.forall_mem_append, accepted_configChain_iff hfaultless hi hknown]
    exact and_iff_left (forall_mem_referenceChain (fun _ => accepted_of_numerals_eq_nil rfl)
      fun _ => accepted_of_numerals_eq_nil rfl)
  calc (∀ s ∈ d.statements, s.opening.Accepted type ∧ ∀ c ∈ s.chain, c.Accepted)
      ↔ (∀ opening ∈ d.statements.map Statement.opening, opening.Accepted type) ∧
          ∀ c ∈ d.statements.flatMap Statement.chain, c.Accepted := by
        simp only [List.forall_mem_map, List.forall_mem_flatMap, forall_and]
    _ ↔ _ := and_congr hopening hchain
    _ ↔ IsBounded i type :=
        ⟨fun h => ⟨h.1, h.2.1, h.2.2.1, h.2.2.2⟩, fun h => ⟨h.database, h.containers, h.hosts, h.replicas⟩⟩

end AppHost

/-! ## Generated code -/

variable {o : RenderOptions} {a : Artifacts}

/-- The names that an AppHost opens resources and databases with, the ports of its endpoints and its numbers of
replicas pass the checks of the catalog exactly if the instances that are declared are bounded. -/
theorem arguments_accepted_iff (hok : t.compile .standard o = .ok a) (hblocked : a.isBlocked = false) :
    a.appHost = AppHost.render .standard t o t.sequence.ordered ∧
      ((∀ i ∈ t.sequence.ordered, ∀ type, Registry.standard.find? i.resourceType = some type →
          ∀ d, declare? .standard t i = some d →
            ∀ s ∈ d.statements, s.opening.Accepted type ∧ ∀ c ∈ s.chain, c.Accepted) ↔
        ∀ i ∈ t.sequence.ordered, ∀ type, Registry.standard.find? i.resourceType = some type →
          IsBounded i type) := by
  rcases compile_unblocked_iff.1 ⟨hok, hblocked⟩ with ⟨hfaultless, -, rfl⟩
  refine ⟨rfl, forall₂_congr fun i hi => forall₂_congr fun type htype => ?_⟩
  have hmem := Topology.mem_of_mem_ordered hi
  have hknown : (Registry.standard.find? i.resourceType).isSome := by rw [htype, Option.isSome_some]
  obtain ⟨d, hd⟩ := Option.isSome_iff_exists.1 (hfaultless.isSome_declare? hmem hknown)
  have hiff := accepted_declaration_iff hfaultless hmem htype hd
  constructor
  · intro h
    exact hiff.1 (h d hd)
  · intro h d' hd'
    obtain rfl : d' = d := Option.some.inj (hd'.symm.trans hd)
    exact hiff.2 h

theorem shop_accepted : ∃ a, shop.compile .standard .standard = .ok a ∧ a.isBlocked = false ∧
    ∀ i ∈ shop.sequence.ordered, ∀ type, Registry.standard.find? i.resourceType = some type →
      ∀ d, declare? .standard shop i = some d →
        ∀ s ∈ d.statements, s.opening.Accepted type ∧ ∀ c ∈ s.chain, c.Accepted := by
  rcases shop_compile with ⟨hok, hblocked⟩
  obtain ⟨-, hiff⟩ := arguments_accepted_iff hok hblocked
  refine ⟨_, hok, hblocked, hiff.2 fun i hi type htype => ?_⟩
  have hplain : ∀ i ∈ shop.instances, keptPorts i = [] ∧ keptReplicas i = none := by decide
  have hnames : ∀ i ∈ shop.instances, ∀ type ∈ Registry.standard.find? i.resourceType,
      ∀ database ∈ Registry.standard.databaseOf? i, ∀ limit ∈ type.nameLimit?, (database.length : Int) ≤ limit := by
    decide
  have hmem := Topology.mem_of_mem_ordered hi
  obtain ⟨hports, hreplicas⟩ := hplain i hmem
  exact ⟨hnames i hmem type htype, by simp [hports], by simp [hports], by simp [hreplicas]⟩

/-- No rule looks at the host's side of a port. -/
theorem exposed_not_accepted : ∃ a, (exposed (some "70000") "6379").compile .standard .standard = .ok a ∧
    a.isBlocked = false ∧ ∃ i ∈ (exposed (some "70000") "6379").sequence.ordered,
      ∃ d, declare? .standard (exposed (some "70000") "6379") i = some d ∧
        ∃ s ∈ d.statements, ∃ c ∈ s.chain, ¬ c.Accepted := by
  have hordered : (exposed (some "70000") "6379").sequence.ordered = (exposed (some "70000") "6379").instances := by
    decide
  have hrange : ¬ IsPortLiteral "70000" := by decide
  refine ⟨_, exposed_compile (some "70000") (by simp), isBlocked_ofOrdered, ?_⟩
  rw [hordered]
  refine ⟨_, List.mem_cons_self, _, rfl, _, List.mem_cons_self, .endpoint (some "70000") "6379",
    List.mem_cons_self, ?_⟩
  rw [accepted_endpoint_iff]
  exact fun h => hrange (h.1 "70000" rfl)

end HostTopology
