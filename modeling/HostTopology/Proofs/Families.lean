import HostTopology.Proofs.Faultless

/-!
# Families — which rules report what

Every finding belongs to a family, and the rules about one thing report findings of one family. Only names
are held against parameters, too, so that naming also reports faults in the use of methods.

* `Within` — findings of given families;
* `within_checkNaming` to `within_checkCycles` — the families of what each group of rules reports;
* `mem_findings_of_naming` to `mem_findings_of_architecture` — where in a report the findings of a family come
  from;
* `invalidName_mem_findings_iff`, `invalidDatabase_mem_findings_iff`, `envKey_mem_findings_iff` — the instances
  with names and keys that are reported;
* `orphan_mem_findings_iff` — a connection is reported as an orphan exactly if one of its ends is missing.
-/

namespace HostTopology
namespace Validation

variable {r : Registry} {t : Topology} {i : ResourceInstance} {c : Connection} {f : Finding}
  {found : List Finding} {families : List Family}

/-! ## Findings of families -/

def Within (families : List Family) (found : List Finding) : Prop :=
  ∀ f ∈ found, f.family ∈ families

theorem within_nil : Within families [] :=
  fun _ hf => absurd hf List.not_mem_nil

theorem within_singleton (h : f.family ∈ families) : Within families [f] := by
  intro g hg
  rwa [List.mem_singleton.1 hg]

theorem within_findWhen {p : Bool} (h : f.family ∈ families) : Within families (findWhen p f) := by
  intro g hg
  rwa [(mem_findWhen.1 hg).2]

theorem within_append {xs ys : List Finding} (hx : Within families xs) (hy : Within families ys) :
    Within families (xs ++ ys) :=
  List.forall_mem_append.2 ⟨hx, hy⟩

theorem within_flatMap {α : Type} {l : List α} {g : α → List Finding} (h : ∀ x, Within families (g x)) :
    Within families (l.flatMap g) :=
  List.forall_mem_flatMap.2 fun x _ => h x

/-- What a traversal finds in all is of the families of what each step finds. -/
theorem within_flatten_of_mapM {ε α : Type} {check : α → Except ε (List Finding)} {l : List α}
    {parts : List (List Finding)} (h : ∀ x found, check x = .ok found → Within families found)
    (hparts : l.mapM check = .ok parts) : Within families parts.flatten := by
  intro f hf
  rcases List.mem_flatten.1 hf with ⟨found, hfound, hf⟩
  exact Except.forall_mem_of_mapM h hparts found hfound f hf

/-! ## Rules -/

theorem within_checkName : Within [.naming, .api] (checkName r i) := by
  intro f hf
  rcases mem_checkName_iff.1 hf with ⟨-, rfl⟩ | ⟨-, -, rfl⟩
  · exact List.mem_cons_self
  · exact List.mem_cons_self

theorem within_checkDatabaseName : Within [.naming, .api] (checkDatabaseName r i) := by
  intro f hf
  obtain ⟨_, -, -, rfl⟩ := mem_checkDatabaseName_iff.1 hf
  exact List.mem_cons_self

theorem within_checkNameParameter : Within [.naming, .api] (checkNameParameter r i) := by
  intro f hf
  obtain ⟨_, _, _, _, -, -, -, -, rfl⟩ := mem_checkNameParameter_iff.1 hf
  exact List.mem_cons_of_mem _ List.mem_cons_self

theorem within_checkDuplicates : Within [.naming, .api] (checkDuplicates t) := by
  intro f hf
  obtain ⟨_, _, _, _, -, rfl⟩ := mem_checkDuplicates_iff.1 hf
  exact List.mem_cons_self

theorem within_checkVariables : Within [.naming, .api] (checkVariables r t) := by
  intro f hf
  obtain ⟨_, _, _, -, -, rfl⟩ := mem_checkVariables_iff.1 hf
  exact List.mem_cons_self

theorem within_checkNaming : Within [.naming, .api] (checkNaming r t) := by
  refine within_append (within_append (within_flatMap fun i => ?_) within_checkDuplicates) within_checkVariables
  exact within_append (within_append within_checkName within_checkDatabaseName) within_checkNameParameter

theorem within_checkArgument {method : String} {p : Catalog.Parameter} (h : checkArgument i method p = .ok found) :
    Within [.api] found := by
  intro f hf
  obtain ⟨_, _, _, -, -, rfl⟩ := (mem_checkArgument_iff h).1 hf
  exact List.mem_cons_self

theorem within_checkMethods (h : checkMethods r t i = .ok found) : Within [.api] found := by
  rcases checkMethods_cases h with ⟨-, rfl⟩ | ⟨_, _, -, hparts, rfl⟩
  · exact within_singleton List.mem_cons_self
  · exact within_append (within_flatten_of_mapM (fun _ _ => within_checkArgument) hparts)
      (within_findWhen List.mem_cons_self)

theorem within_checkConnection : Within [.connection] (checkConnection r t c) := by
  intro f hf
  rcases mem_checkConnection_iff.1 hf with ⟨_, _, -, -, ⟨-, rfl⟩ | ⟨-, rfl⟩⟩ | ⟨-, rfl⟩
  · exact List.mem_cons_self
  · exact List.mem_cons_self
  · exact List.mem_cons_self

theorem within_checkPort {node : String} {n : Nat} {p : PortMapping} (h : checkPort node n p = .ok found) :
    Within [.configuration] found := by
  intro f hf
  obtain ⟨-, -, rfl⟩ := (mem_checkPort_iff h).1 hf
  exact List.mem_cons_self

theorem within_checkConfiguration (h : checkConfiguration r i = .ok found) : Within [.configuration] found := by
  rcases checkConfiguration_cases h with ⟨-, rfl⟩ | ⟨_, _, -, hports, rfl⟩
  · exact within_nil
  · have hstorage : Within [.configuration] (checkStorage r i) :=
      within_append (within_findWhen List.mem_cons_self) (within_findWhen List.mem_cons_self)
    exact within_append (within_append hstorage (within_flatMap fun _ => within_findWhen List.mem_cons_self))
      (within_flatten_of_mapM (fun _ _ => within_checkPort) hports)

theorem within_checkArchitecture : Within [.architecture] (checkArchitecture r t) := by
  have huse : ∀ i, Within [.architecture] (checkUse r t i) := fun i =>
    within_append (within_findWhen List.mem_cons_self) (within_findWhen List.mem_cons_self)
  have hshared : ∀ service, Within [.architecture] (checkShared r t service) := fun service =>
    within_findWhen List.mem_cons_self
  exact within_append (within_append (within_flatMap huse) (hshared .messaging)) (hshared .cache)

theorem within_checkSecurity : Within [.security] (checkSecurity i) :=
  within_append (within_flatMap fun _ => within_findWhen List.mem_cons_self) (within_findWhen List.mem_cons_self)

theorem within_checkPerformance : Within [.performance] (checkPerformance r t i) :=
  within_findWhen List.mem_cons_self

theorem within_checkCycles : Within [.architecture] (checkCycles r t) := by
  intro f hf
  rcases List.mem_filterMap.1 hf with ⟨cycle, -, hsome⟩
  split at hsome
  · obtain rfl := Option.some.inj hsome
    exact List.mem_cons_self
  · cases hsome

/-! ## Reports -/

/-- The groups of rules, with the families of what they find. -/
def groups (r : Registry) (t : Topology) (methods configuration : List Finding) : List (List Family × List Finding) :=
  [([.naming, .api], checkNaming r t), ([.api], methods), ([.connection], t.connections.flatMap (checkConnection r t)),
    ([.configuration], configuration), ([.architecture], checkArchitecture r t),
    ([.security], t.instances.flatMap checkSecurity), ([.performance], t.instances.flatMap (checkPerformance r t)),
    ([.architecture], checkCycles r t)]

section Reports

variable {v : Report} (hv : t.validate r = .ok v)
include hv

/-- The report puts together what each group of rules finds. -/
theorem exists_parts : ∃ methods configuration : List (List Finding),
    t.instances.mapM (checkMethods r t) = .ok methods ∧ t.instances.mapM (checkConfiguration r) = .ok configuration ∧
    (∀ group ∈ groups r t methods.flatten configuration.flatten, Within group.1 group.2) ∧
    v.findings = (groups r t methods.flatten configuration.flatten).flatMap Prod.snd := by
  rcases Except.bind_eq_ok_iff.1 hv with ⟨methods, hmethods, hv⟩
  rcases Except.bind_eq_ok_iff.1 hv with ⟨configuration, hconfiguration, hv⟩
  obtain rfl := Except.ok.inj hv
  refine ⟨methods, configuration, hmethods, hconfiguration, ?_, by simp [groups]⟩
  -- one fact for each group, in the order in which they report
  simp only [groups, List.forall_mem_cons]
  exact ⟨within_checkNaming, within_flatten_of_mapM (fun _ _ => within_checkMethods) hmethods,
    within_flatMap fun _ => within_checkConnection,
    within_flatten_of_mapM (fun _ _ => within_checkConfiguration) hconfiguration, within_checkArchitecture,
    within_flatMap fun _ => within_checkSecurity, within_flatMap fun _ => within_checkPerformance, within_checkCycles,
    List.forall_mem_nil _⟩

/-- What is found is found by a group that looks for findings of its family. -/
theorem exists_mem_findings_iff : ∃ methods configuration : List (List Finding),
    t.instances.mapM (checkMethods r t) = .ok methods ∧ t.instances.mapM (checkConfiguration r) = .ok configuration ∧
    ∀ f, f ∈ v.findings ↔ ∃ group ∈ groups r t methods.flatten configuration.flatten,
      f.family ∈ group.1 ∧ f ∈ group.2 := by
  obtain ⟨methods, configuration, hmethods, hconfiguration, hwithin, hfindings⟩ := exists_parts hv
  refine ⟨methods, configuration, hmethods, hconfiguration, fun f => ?_⟩
  rw [hfindings, List.mem_flatMap]
  exact exists_congr fun group => and_congr_right fun hgroup => (and_iff_right_of_imp (hwithin group hgroup f)).symm

/-- What the report says about names comes from the rules about names. -/
theorem mem_findings_of_naming (hf : f.family = .naming) : f ∈ v.findings ↔ f ∈ checkNaming r t := by
  obtain ⟨methods, configuration, -, -, hfindings⟩ := exists_mem_findings_iff hv
  rw [hfindings, hf]
  simp [groups]

/-- What the report says about the use of methods comes from the rules about names, or about the method of one of the
instances. -/
theorem mem_findings_of_api (hf : f.family = .api) : f ∈ v.findings ↔
    f ∈ checkNaming r t ∨ ∃ i ∈ t.instances, ∃ found, checkMethods r t i = .ok found ∧ f ∈ found := by
  obtain ⟨methods, configuration, hmethods, -, hfindings⟩ := exists_mem_findings_iff hv
  rw [hfindings, hf, ← Except.mem_flatten_of_mapM_iff hmethods]
  simp [groups]

/-- What the report says about a configuration comes from the rules about one of the instances. -/
theorem mem_findings_of_configuration (hf : f.family = .configuration) :
    f ∈ v.findings ↔ ∃ i ∈ t.instances, ∃ found, checkConfiguration r i = .ok found ∧ f ∈ found := by
  obtain ⟨methods, configuration, -, hconfiguration, hfindings⟩ := exists_mem_findings_iff hv
  rw [hfindings, hf, ← Except.mem_flatten_of_mapM_iff hconfiguration]
  simp [groups]

/-- What the report says about connections comes from the rules about connections. -/
theorem mem_findings_of_connection (hf : f.family = .connection) :
    f ∈ v.findings ↔ ∃ c ∈ t.connections, f ∈ checkConnection r t c := by
  obtain ⟨methods, configuration, -, -, hfindings⟩ := exists_mem_findings_iff hv
  rw [hfindings, hf]
  simp [groups]

/-- What the report says about the architecture comes from the rules about it, and from the search for cycles. -/
theorem mem_findings_of_architecture (hf : f.family = .architecture) :
    f ∈ v.findings ↔ f ∈ checkArchitecture r t ∨ f ∈ checkCycles r t := by
  obtain ⟨methods, configuration, -, -, hfindings⟩ := exists_mem_findings_iff hv
  rw [hfindings, hf]
  simp [groups]

end Reports

/-! ## Names -/

/-- Apart from what is told of parameters and of several instances, the rules look at one instance. -/
theorem mem_checkNaming_iff (hfault : ∀ node method n fault, f ≠ .nameFault node method n fault)
    (hduplicate : ∀ name first holders, f ≠ .duplicateName name first holders)
    (hcollision : ∀ name first origins nodes, f ≠ .variableCollision name first origins nodes) :
    f ∈ checkNaming r t ↔ ∃ i ∈ t.instances, f ∈ checkName r i ∨ f ∈ checkDatabaseName r i := by
  have hparameters : ∀ i, f ∉ checkNameParameter r i := by
    intro i h
    obtain ⟨type, _, n, fault, -, -, -, -, heq⟩ := mem_checkNameParameter_iff.1 h
    exact hfault i.id type.builder.name n fault heq
  have hduplicates : f ∉ checkDuplicates t := by
    intro h
    obtain ⟨name, first, _, _, -, heq⟩ := mem_checkDuplicates_iff.1 h
    exact hduplicate name first.id _ heq
  have hvariables : f ∉ checkVariables r t := by
    intro h
    obtain ⟨name, first, _, -, -, heq⟩ := mem_checkVariables_iff.1 h
    exact hcollision name first.node _ _ heq
  simp only [checkNaming, List.mem_append, List.mem_flatMap, hparameters, hduplicates, hvariables, or_false]

theorem invalidName_mem_findings_iff {v : Report} (hv : t.validate r = .ok v) {node name : String} :
    .invalidName node name ∈ v.findings ↔ ∃ i ∈ t.instances, i.id = node ∧ i.name = name ∧
      isBlankText name = false ∧ isIdentifier name = false := by
  rw [mem_findings_of_naming hv rfl, mem_checkNaming_iff (by simp) (by simp) (by simp)]
  simp only [mem_checkName_iff, mem_checkDatabaseName_iff, reduceCtorEq, and_false, false_or, exists_false, or_false,
    Finding.invalidName.injEq]
  constructor
  · rintro ⟨i, hi, hblank, hidentifier, rfl, rfl⟩
    exact ⟨i, hi, rfl, rfl, hblank, hidentifier⟩
  · rintro ⟨i, hi, rfl, rfl, hblank, hidentifier⟩
    exact ⟨i, hi, hblank, hidentifier, rfl, rfl⟩

theorem invalidDatabase_mem_findings_iff {v : Report} (hv : t.validate r = .ok v) {node database : String} :
    .invalidDatabase node database ∈ v.findings ↔ ∃ i ∈ t.instances, i.id = node ∧
      r.databaseOf? i = some database ∧ isIdentifier database = false := by
  rw [mem_findings_of_naming hv rfl, mem_checkNaming_iff (by simp) (by simp) (by simp)]
  simp only [mem_checkName_iff, mem_checkDatabaseName_iff, reduceCtorEq, and_false, or_false, false_or,
    Finding.invalidDatabase.injEq]
  constructor
  · rintro ⟨i, hi, _, hdatabase, hidentifier, rfl, rfl⟩
    exact ⟨i, hi, rfl, hdatabase, hidentifier⟩
  · rintro ⟨i, hi, rfl, hdatabase, hidentifier⟩
    exact ⟨i, hi, database, hdatabase, hidentifier, rfl, rfl⟩

/-! ## Environment variables -/

theorem envKey_mem_checkConfiguration_iff (h : checkConfiguration r i = .ok found) {node key : String} {n : Nat} :
    .envKey node n key ∈ found ↔ (r.categoryOf? i).isSome ∧ i.id = node ∧
      (∃ v, i.config.envVars[n]? = some v ∧ v.key = key) ∧ key ≠ "" ∧ Catalog.Pattern.envKey.accepts key = false := by
  rcases checkConfiguration_cases h with ⟨hnone, rfl⟩ | ⟨category, ports, hsome, hports, rfl⟩
  · simp [hnone]
  · -- only the rule about keys reports them, and it does so at the place of the variable
    have hport : .envKey node n key ∉ ports.flatten := by
      intro hmem
      obtain ⟨⟨p, m⟩, -, found, hcheck, hmem⟩ := (Except.mem_flatten_of_mapM_iff hports).1 hmem
      obtain ⟨-, -, heq⟩ := (mem_checkPort_iff hcheck).1 hmem
      cases heq
    have hstorage : .envKey node n key ∉ checkStorage r i := by simp [checkStorage, mem_findWhen]
    rw [List.mem_append, List.mem_append, or_iff_left hport, or_iff_right hstorage, List.mem_flatMap]
    simp only [mem_checkEnvKey_iff, Finding.envKey.injEq, List.mem_zipIdx_iff_getElem?, Prod.exists]
    constructor
    · rintro ⟨v, m, hv, hne, hrejects, rfl, rfl, rfl⟩
      exact ⟨by rw [hsome, Option.isSome_some], rfl, ⟨v, hv, rfl⟩, hne, hrejects⟩
    · rintro ⟨-, rfl, ⟨v, hv, rfl⟩, hne, hrejects⟩
      exact ⟨v, n, hv, hne, hrejects, rfl, rfl, rfl⟩

theorem envKey_mem_findings_iff {v : Report} (hv : t.validate r = .ok v) {node key : String} {n : Nat} :
    .envKey node n key ∈ v.findings ↔ ∃ i ∈ t.instances, (r.categoryOf? i).isSome ∧ i.id = node ∧
      (∃ e, i.config.envVars[n]? = some e ∧ e.key = key) ∧ key ≠ "" ∧ Catalog.Pattern.envKey.accepts key = false := by
  obtain ⟨-, configuration, -, hconfiguration, -⟩ := exists_parts hv
  rw [mem_findings_of_configuration hv rfl]
  exact Except.exists_ok_and_iff ⟨configuration, hconfiguration⟩ fun i found h => envKey_mem_checkConfiguration_iff h

/-! ## Connections -/

theorem orphan_mem_checkConnection_iff {edge : String} :
    .orphan edge ∈ checkConnection r t c ↔ c.id = edge ∧ (c.source ∉ t.ids ∨ c.target ∉ t.ids) := by
  have hmissing : ∀ id, id ∉ t.ids ↔ t.find? id = none := by
    intro id
    rw [← Topology.find?_isSome_iff, Option.not_isSome_iff_eq_none]
  rw [hmissing, hmissing, mem_checkConnection_iff]
  simp only [reduceCtorEq, and_false, or_self, exists_false, false_or, Finding.orphan.injEq]
  rw [and_comm, eq_comm]

theorem orphan_mem_findings_iff {v : Report} (hv : t.validate r = .ok v) {edge : String} :
    .orphan edge ∈ v.findings ↔ ∃ c ∈ t.connections, c.id = edge ∧ (c.source ∉ t.ids ∨ c.target ∉ t.ids) := by
  rw [mem_findings_of_connection hv rfl]
  simp only [orphan_mem_checkConnection_iff]

end Validation
end HostTopology
