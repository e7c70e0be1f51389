import HostTopology.Proofs.Reprint

/-!
# Revalidation — the topology that is read back is faultless

Most rules look at names and types, which are read back as they were. Ports are not read back, so
there is nothing left to find in them; connections are read back between the same instances.

* `Listing.checkVariables_reissued`, `Listing.checkConnection_reissued` — the rules that look at several
  instances;
* `Listing.faultless_reissued` — no rule finds an error.
-/

namespace HostTopology
namespace Validation

open Catalog

/-- No port is required. -/
theorem check_port {type : ResourceType} {p : Parameter} (htype : type ∈ resourceTypes) (hp : p ∈ type.builder.parameters)
    (hport : p.name = "port") : p.check .null = [] := by
  have hall : ∀ type ∈ resourceTypes, ∀ p ∈ type.builder.parameters, p.name = "port" → p.check .null = [] := by
    decide
  exact hall type htype p hp hport

end Validation

namespace AppHost

open Catalog Validation

variable {t : Topology} {l : List ResourceInstance} {i : ResourceInstance} {type : ResourceType} {p : Parameter}

/-! ## Instances -/

/-- Apart from the port, arguments are made from the name and the type. -/
theorem builderArgument_newInstance {parameter : String} (hport : parameter ≠ "port") :
    builderArgument (newInstance l i) parameter = builderArgument i parameter := by
  rw [builderArgument, builderArgument]
  simp only [hport, if_false]
  rfl

theorem checkArgument_newInstance (htype : type ∈ resourceTypes) (hp : p ∈ type.builder.parameters)
    (h : checkArgument i type.builder.name p = .ok []) :
    checkArgument (newInstance l i) type.builder.name p = .ok [] := by
  rw [checkArgument_eq_nil_iff] at h ⊢
  by_cases hport : p.name = "port"
  · refine ⟨.null, ?_, check_port htype hp hport⟩
    rw [hport]
    rfl
  · rwa [builderArgument_newInstance hport]

theorem map_name_declaredFor_newInstance (l : List ResourceInstance) (i : ResourceInstance) :
    (declaredFor .standard (newInstance l i)).map Declared.name =
      (declaredFor .standard i).map Declared.name := by
  rw [declaredFor, declaredFor, newInstance_name, newInstance_resourceType, databaseOf?_newInstance]
  split
  · rfl
  · cases Registry.standard.databaseOf? i <;> rfl

/-! ## The topology -/

namespace Listing

theorem nodup_names_reissued (h : Listing t l) :
    ((reissued t l).instances.map ResourceInstance.name).Nodup := by
  have hnames : (reissued t l).instances.map ResourceInstance.name = l.map ResourceInstance.name := by
    rw [reissued, List.map_map]
    rfl
  rw [hnames]
  refine List.Nodup.map_on ?_ (List.Nodup.of_map _ h.ids)
  intro i hi j hj hname
  exact List.inj_on_of_nodup_map h.faultless.nodup_names (h.mem i hi) (h.mem j hj) hname

theorem checkDuplicates_reissued (h : Listing t l) : checkDuplicates (reissued t l) = [] := by
  rw [checkDuplicates_eq_nil_iff]
  exact h.nodup_names_reissued.sublist (List.filter_sublist.map _)

theorem checkVariables_reissued (h : Listing t l) : checkVariables .standard (reissued t l) = [] := by
  rw [checkVariables_eq_nil_iff h.nodup_names_reissued]
  have hvariables : ((reissued t l).instances.flatMap (declaredFor .standard)).map Declared.name =
      (l.flatMap (declaredFor .standard)).map Declared.name := by
    rw [reissued, List.flatMap_map, List.map_flatMap, List.map_flatMap]
    exact List.flatMap_congr fun i _ => map_name_declaredFor_newInstance l i
  rw [hvariables]
  exact h.distinct

theorem checkReference_reissued (h : Listing t l) (hi : i ∈ l)
    (hreference : checkReference .standard t i = []) :
    checkReference .standard (reissued t l) (newInstance l i) = [] := by
  rw [checkReference_eq_nil_iff] at hreference ⊢
  rw [newInstance_id, h.incoming_newId hi, List.map_eq_nil_iff, newInstance_resourceType]
  exact hreference

theorem checkConnection_reissued (h : Listing t l) {c' : Connection}
    (hc' : c' ∈ (reissued t l).connections) : checkConnection .standard (reissued t l) c' = [] := by
  rcases mem_connections_reissued hc' with ⟨c, hc, rfl⟩
  rcases h.faultless.exists_ends hc with ⟨source, target, hsource, htarget, hvalid, hne⟩
  rcases exists_types_of_isConnectionValid hvalid with ⟨hsknown, htknown⟩
  have hsmem := h.complete source (List.mem_of_find?_eq_some hsource) hsknown
  have htmem := h.complete target (List.mem_of_find?_eq_some htarget) htknown
  have hsid : source.id = c.source := by simpa using List.find?_some hsource
  have htid : target.id = c.target := by simpa using List.find?_some htarget
  rw [checkConnection_eq_nil_iff, newConnection_source, newConnection_target, ← hsid, ← htid]
  refine ⟨newInstance l source, newInstance l target, h.find?_newId hsmem, h.find?_newId htmem, hvalid, ?_⟩
  intro hsame
  exact hne (hsid.symm.trans ((newId_inj hsmem hsame).trans htid))

/-- No rule finds an error in what is read back. -/
theorem faultless_reissued (h : Listing t l) (hd : t.DistinctIds)
    (horder : (l.map ResourceInstance.id).Sublist t.order) : Faultless .standard (reissued t l) := by
  have hinstance : ∀ {P : ResourceInstance → Prop}, (∀ i ∈ l, P (newInstance l i)) →
      ∀ i' ∈ (reissued t l).instances, P i' := by
    intro P hP i' hi'
    rcases List.mem_map.1 hi' with ⟨i, hi, rfl⟩
    exact hP i hi
  constructor
  case names =>
    refine hinstance fun i hi => ?_
    have hname := checkName_eq_nil_iff.1 (h.faultless.names i (h.mem i hi))
    exact checkName_eq_nil_iff.2 hname
  case databases =>
    refine hinstance fun i hi => ?_
    have hdatabase := checkDatabaseName_eq_nil_iff.1 (h.faultless.databases i (h.mem i hi))
    rw [checkDatabaseName_eq_nil_iff, databaseOf?_newInstance]
    exact hdatabase
  case nameParameters =>
    refine hinstance fun i hi => ?_
    have hparameter := checkNameParameter_eq_nil_iff.1 (h.faultless.nameParameters i (h.mem i hi))
    exact checkNameParameter_eq_nil_iff.2 hparameter
  case duplicates => exact h.checkDuplicates_reissued
  case declared => exact h.checkVariables_reissued
  case methods =>
    refine hinstance fun i hi type htype => ?_
    rcases h.faultless.methods i (h.mem i hi) type htype with ⟨harguments, hreference⟩
    refine ⟨fun p hp => ?_, h.checkReference_reissued hi hreference⟩
    exact checkArgument_newInstance (Registry.mem_types htype).1 hp (harguments p hp)
  case connections => exact fun c' hc' => h.checkConnection_reissued hc'
  case ports =>
    -- no ports are read back
    refine hinstance fun i _ _ e he => ?_
    exact absurd he List.not_mem_nil
  case acyclic => exact h.acyclic_reissued hd horder

end Listing
end AppHost
end HostTopology
