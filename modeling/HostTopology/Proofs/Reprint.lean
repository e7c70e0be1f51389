import HostTopology.Proofs.Reissue

/-!
# Reprint — what is generated for the topology that is read back

An instance that is read back has lost only what its declaration does not show, so it is declared as
before. Types without a declaration have no package and no connection string either.

* `Listing.declare?_newInstance` — the declaration of an instance that is read back;
* `Listing.render_reissued`, `Listing.settingsText_reissued` — the AppHost and the settings;
* `Listing.writable_reissued` — its numbers and indents can be written.
-/

namespace HostTopology
namespace AppHost

open Catalog Naming Validation

variable {α : Type} {t : Topology} {l ordered : List ResourceInstance} {i : ResourceInstance} {type : ResourceType}
  {category : ResourceCategory} {o : RenderOptions}

/-! ## Instances -/

theorem databaseOf?_newInstance (l : List ResourceInstance) (i : ResourceInstance) :
    Registry.standard.databaseOf? (newInstance l i) = Registry.standard.databaseOf? i := by
  rw [Registry.databaseOf?, newInstance_resourceType, newInstance_database, Registry.databaseOf?]
  by_cases hallowed : Registry.standard.allowsDatabase i.resourceType = true
  · simp [hallowed, Option.filter_filter]
  · simp [hallowed]

theorem filterMap_environmentOf_kept (i : ResourceInstance) :
    (keptEnvVars i).filterMap environmentOf = i.config.envVars.filterMap environmentOf :=
  filterMap_guard_filter (p := fun v : EnvVar => present v.key && present v.value)
    (f := fun v => ChainCall.environment v.key v.value) i.config.envVars

theorem filterMap_bindMountOf_kept (i : ResourceInstance) :
    (keptVolumes i).filterMap bindMountOf = i.config.volumes.filterMap bindMountOf :=
  filterMap_guard_filter (p := fun v : VolumeMount => present v.source && present v.target)
    (f := fun v => ChainCall.bindMount v.source v.target) i.config.volumes

theorem bind_replicasOf_kept (i : ResourceInstance) :
    (keptReplicas i).bind replicasOf = i.config.replicas.bind replicasOf := by
  rw [keptReplicas]
  cases i.config.replicas with
  | none => rfl
  | some n =>
    by_cases hn : 1 < n
    · simp [Option.filter, replicasOf, hn]
    · simp [Option.filter, replicasOf, hn]

/-- Ports without a container port have no calls, and none are read back. -/
theorem configChain_newInstance (hports : ∀ p ∈ i.config.ports, p.container = "")
    (hcategory : Registry.standard.categoryOf? i = some category) :
    configChain (newInstance l i) category = configChain i category := by
  have hnone : i.config.ports.filterMap endpointOf = [] := by
    rw [List.filterMap_eq_nil_iff]
    intro p hp
    rw [endpointOf, hports p hp]
    rfl
  -- a lifetime that was not ruled out is read back as given
  have hpersistent : (category = .database ∧ (newInstance l i).config.persistent ≠ some false) ↔
      category = .database ∧ i.config.persistent ≠ some false := by
    refine and_congr_right fun hdatabase => ?_
    simp [recoveredConfig, hcategory, hdatabase]
  rw [configChain, configChain, hnone]
  simp only [hpersistent, newInstance_resourceType]
  simp only [newInstance_config, recoveredConfig, filterMap_environmentOf_kept, filterMap_bindMountOf_kept,
    bind_replicasOf_kept, List.filterMap_nil]

theorem sourceChain_newInstance (l : List ResourceInstance) (i : ResourceInstance) :
    sourceChain .standard (newInstance l i) = sourceChain .standard i := by
  have hvariable : referenceVariable .standard (newInstance l i) = referenceVariable .standard i := by
    rw [referenceVariable, databaseOf?_newInstance, newInstance_name, referenceVariable]
  rw [sourceChain, sourceChain, hvariable]
  rfl

namespace Listing

theorem referenceChain_newId (h : Listing t l) (hi : i ∈ l) :
    referenceChain .standard (reissued t l) (newId l i.id) = referenceChain .standard t i.id := by
  rw [h.faultless.referenceChain_eq, referenceChain, h.incoming_newId hi, List.flatMap_map]
  refine List.flatMap_congr fun c hc => ?_
  rcases h.exists_source (List.mem_filter.1 hc).1 with ⟨source, hmem, hid, hcalls⟩
  have hfind : (reissued t l).find? (newConnection l c).source = some (newInstance l source) := by
    rw [← h.find?_newId hmem, hid]
    rfl
  have hpresent : present source.name = true := by
    simpa [present] using h.name_ne_empty hmem
  rw [hfind, hcalls]
  simp only [newInstance_name, hpresent, if_true, sourceChain_newInstance]

/-- An instance that is read back is declared as before. -/
theorem declare?_newInstance (h : Listing t l) (htexts : HasPlainTexts t) (hi : i ∈ l) :
    declare? .standard (reissued t l) (newInstance l i) = declare? .standard t i := by
  rcases h.exists_type hi with ⟨type, htype⟩
  have hname := h.name_ne_empty hi
  have hcategory := Registry.categoryOf?_eq htype
  have hchain : configChain (newInstance l i) type.category = configChain i type.category :=
    configChain_newInstance (htexts.ports i (h.mem i hi)) hcategory
  -- the two statements, or the one, have the same parts
  have hreferences : referenceChain .standard (reissued t l) (newInstance l i).id =
      referenceChain .standard t i.id := h.referenceChain_newId hi
  have hserver : ∀ chain, serverStatement (newInstance l i) type chain = serverStatement i type chain := by
    intro chain
    rw [serverStatement, hchain]
    rfl
  cases hdatabase : Registry.standard.databaseOf? i with
  | none =>
    have hnew := (databaseOf?_newInstance l i).trans hdatabase
    rw [declare?_of_no_database hname htype hdatabase,
      declare?_of_no_database (i := newInstance l i) hname htype hnew, hserver, hreferences]
  | some database =>
    have hnew := (databaseOf?_newInstance l i).trans hdatabase
    have hsecond : databaseStatement (reissued t l) (newInstance l i) database =
        databaseStatement t i database := by
      rw [databaseStatement, hreferences]
      rfl
    rw [declare?_of_database hname htype hdatabase,
      declare?_of_database (i := newInstance l i) hname htype hnew, hserver, hsecond]

end Listing

/-! ## Types that are not declared -/

/-- The instances of known types. -/
def knownOnes (ordered : List ResourceInstance) : List ResourceInstance :=
  ordered.filter fun i => (Registry.standard.find? i.resourceType).isSome

/-- What an unknown type has none of is had by the instances of known types. -/
theorem filterMap_knownOnes {f : ResourceInstance → Option α}
    (hf : ∀ i, Registry.standard.find? i.resourceType = none → f i = none) :
    (knownOnes ordered).filterMap f = ordered.filterMap f := by
  rw [knownOnes, List.filterMap_filter]
  refine List.filterMap_congr fun i _ => ?_
  cases htype : Registry.standard.find? i.resourceType with
  | none => simp [hf i htype]
  | some type => simp

theorem declare?_of_unknown (htype : Registry.standard.find? i.resourceType = none) :
    declare? .standard t i = none := by
  rw [declare?, htype, Option.map_none, ite_self]

theorem connectionKey?_of_unknown (htype : Registry.standard.find? i.resourceType = none) :
    Companion.connectionKey? .standard i = none := by
  rw [Companion.connectionKey?, Registry.categoryOf?, Registry.category?, htype]
  exact ite_self _

theorem requiredPackages_knownOnes (ordered : List ResourceInstance) :
    Registry.standard.requiredPackages ((knownOnes ordered).map ResourceInstance.resourceType) =
      Registry.standard.requiredPackages (ordered.map ResourceInstance.resourceType) := by
  let spec? (i : ResourceInstance) : Option String :=
    (Registry.standard.find? i.resourceType).bind fun type =>
      if type.package = builtinPackage then none else some type.packageSpec
  have hunknown : ∀ i, Registry.standard.find? i.resourceType = none → spec? i = none := by
    intro i htype
    simp only [spec?, htype, Option.bind_none]
  have hspecs : (knownOnes ordered).filterMap spec? = ordered.filterMap spec? := filterMap_knownOnes hunknown
  rw [Registry.requiredPackages, Registry.requiredPackages, List.filterMap_map, List.filterMap_map]
  exact congrArg (fun specs => Registry.sortTexts specs.eraseDups) hspecs

/-! ## Packages and settings -/

theorem requiredPackages_reissued (l ordered : List ResourceInstance) :
    Registry.standard.requiredPackages
        (((knownOnes ordered).map (newInstance l)).map ResourceInstance.resourceType) =
      Registry.standard.requiredPackages (ordered.map ResourceInstance.resourceType) := by
  rw [List.map_map, ← requiredPackages_knownOnes]
  rfl

/-- Exactly the database servers of the catalog have databases. -/
theorem allowsDatabase_iff_category : Registry.standard.allowsDatabase i.resourceType = true ↔
    Registry.standard.categoryOf? i = some .database := by
  have hall : ∀ type ∈ resourceTypes, (type.child? "AddDatabase").isSome ↔ type.category = .database := by
    decide
  rw [Registry.allowsDatabase]
  cases htype : Registry.standard.find? i.resourceType with
  | none => simp [Registry.categoryOf?, Registry.category?, htype]
  | some type =>
    rw [Registry.categoryOf?_eq htype, Option.bind_some, Option.some.injEq]
    exact hall type (Registry.mem_types htype).1

theorem connectionKey?_newInstance (l : List ResourceInstance) (i : ResourceInstance) :
    Companion.connectionKey? .standard (newInstance l i) = Companion.connectionKey? .standard i := by
  have hcategory : Registry.standard.categoryOf? (newInstance l i) = Registry.standard.categoryOf? i := rfl
  -- an empty name of a database is not read back, and makes no difference to the key
  have hdatabase : Registry.standard.categoryOf? i = some .database →
      (newInstance l i).database.filter present = i.database.filter present := by
    intro hserver
    rw [newInstance_database, Registry.databaseOf?, allowsDatabase_iff_category.2 hserver, if_pos rfl, Option.filter_filter]
    congr 1
    funext s
    by_cases hs : s = ""
    · simp [present, hs]
    · simp [present, hs]
  rw [Companion.connectionKey?, Companion.connectionKey?, hcategory, newInstance_name]
  split
  · rfl
  · split
    · rename_i hserver
      rw [hdatabase hserver]
    · rfl
    · rfl
    · rfl

theorem settingsText_reissued (l ordered : List ResourceInstance) :
    Companion.settingsText .standard ((knownOnes ordered).map (newInstance l)) =
      Companion.settingsText .standard ordered := by
  have hkeys : ((knownOnes ordered).map (newInstance l)).filterMap (Companion.connectionKey? .standard) =
      ordered.filterMap (Companion.connectionKey? .standard) := by
    rw [List.filterMap_map, ← filterMap_knownOnes fun i => connectionKey?_of_unknown]
    exact List.filterMap_congr fun i _ => connectionKey?_newInstance l i
  rw [Companion.settingsText, Companion.settingsText, Companion.settings, Companion.settings,
    Companion.connectionStrings, Companion.connectionStrings, hkeys]

/-! ## Numbers and indents -/

theorem indent?_eq (r : Registry) (t : Topology) (ordered : List ResourceInstance) :
    Artifacts.indent? r o t ordered =
      if (ordered.filterMap (declare? r t)).isEmpty then .ok "" else o.indent? := by
  have hnone : (ordered.all fun i => (declare? r t i).isNone) =
      (ordered.filterMap (declare? r t)).isEmpty := by
    rw [Bool.eq_iff_iff, List.all_eq_true, List.isEmpty_iff, List.filterMap_eq_nil_iff]
    simp only [Option.isNone_iff_eq_none]
  rw [Artifacts.indent?, hnone]

/-- The most replicas of an app are those that are declared, or ten. -/
theorem maxReplicas_newInstance (l : List ResourceInstance) (i : ResourceInstance) :
    Companion.maxReplicas (newInstance l i) = Companion.maxReplicas i ∨
      Companion.maxReplicas (newInstance l i) = 10 := by
  have hnew : (newInstance l i).config.replicas = i.config.replicas.filter fun n => 1 < n := by
    rw [newInstance_config, recoveredConfig, keptReplicas]
  rw [Companion.maxReplicas, Companion.maxReplicas, hnew]
  cases i.config.replicas with
  | none => exact Or.inr rfl
  | some n =>
    by_cases hn : 1 < n
    · left
      simp [Option.filter, hn]
    · right
      simp [Option.filter, hn]

theorem ten_lt_numeralBound : 10 < Text.numeralBound := by
  have hlimit : 1 < Text.numeralLimit := by decide
  unfold Text.numeralBound
  -- the bound is too large a power to be computed
  generalize Text.numeralLimit = limit at hlimit ⊢
  calc 10 = 10 ^ 1 := (Nat.pow_one 10).symm
    _ < 10 ^ limit := Nat.pow_lt_pow_right (by decide) hlimit

/-! ## The topology -/

namespace Listing

theorem declarations_reissued (h : Listing t (knownOnes ordered)) (htexts : HasPlainTexts t) :
    ((knownOnes ordered).map (newInstance (knownOnes ordered))).filterMap
        (declare? .standard (reissued t (knownOnes ordered))) =
      ordered.filterMap (declare? .standard t) := by
  rw [List.filterMap_map, ← filterMap_knownOnes fun i => declare?_of_unknown]
  exact List.filterMap_congr fun i hi => h.declare?_newInstance htexts hi

theorem render_reissued (h : Listing t (knownOnes ordered)) (htexts : HasPlainTexts t) (o : RenderOptions) :
    render .standard (reissued t (knownOnes ordered)) o
        ((knownOnes ordered).map (newInstance (knownOnes ordered))) =
      render .standard t o ordered := by
  rw [render, render, h.declarations_reissued htexts, requiredPackages_reissued]

/-- What can be written for a topology can be written for the one that is read back. -/
theorem writable_reissued (h : Listing t (knownOnes ordered)) (htexts : HasPlainTexts t)
    (hwritable : Writable .standard o t ordered) :
    Writable .standard o (reissued t (knownOnes ordered))
      ((knownOnes ordered).map (newInstance (knownOnes ordered))) := by
  have hdeclarations := h.declarations_reissued htexts
  have hnumbers := hwritable.numbers
  constructor
  · have hindent := hwritable.indent
    rw [indent?_eq] at hindent ⊢
    rwa [hdeclarations]
  · intro n hn
    rw [Artifacts.numbers, hdeclarations, List.mem_append] at hn
    rcases hn with hn | hn
    · exact hnumbers n (List.mem_append_left _ hn)
    · rw [Companion.manifestNumbers] at hn
      rcases List.mem_map.1 hn with ⟨i', hi', rfl⟩
      rcases List.mem_filter.1 hi' with ⟨hmem, happ⟩
      rcases List.mem_map.1 hmem with ⟨i, hi, rfl⟩
      -- the number is kept, or it is the default
      rcases maxReplicas_newInstance (knownOnes ordered) i with hsame | hten
      · rw [hsame]
        refine hnumbers _ (List.mem_append_right _ (List.mem_map_of_mem (List.mem_filter.2 ⟨?_, happ⟩)))
        exact (List.mem_filter.1 hi).1
      · rw [hten]
        exact ten_lt_numeralBound

end Listing
end AppHost
end HostTopology
