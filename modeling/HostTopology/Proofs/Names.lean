import HostTopology.Proofs.Faultless

/-!
# Names — what the rules about names and connections say

The rules of validation are written as searches for findings. Here each of them is read as a fact
about the topology:

* `checkDuplicates_eq_nil_iff` — no two instances share a name;
* `checkVariables_eq_nil_iff` — no variable is declared twice;
* `checkConnection_eq_nil_iff` — a connection joins two different instances whose types allow it;
* `checkNameParameter_eq_nil_iff`, `checkArgument_eq_nil_iff`, `checkReference_eq_nil_iff` — when the
  rules about methods find nothing.
-/

namespace List

/-- Members with different keys, read off the pairs that stand in order in the list. -/
theorem nodup_map_iff_forall_sublist {α β : Type} {f : α → β} {l : List α} :
    (l.map f).Nodup ↔ ∀ {a b}, [a, b].Sublist l → f a ≠ f b := by
  rw [List.Nodup, List.pairwise_map, List.pairwise_iff_forall_sublist]

end List

namespace HostTopology

/-- What is looked up stands in the catalog under its id. -/
theorem Registry.mem_types {r : Registry} {id : String} {type : Catalog.ResourceType}
    (h : r.find? id = some type) : type ∈ r.types ∧ type.id = id :=
  ⟨List.mem_of_find?_eq_some h, by simpa using List.find?_some h⟩

theorem Registry.categoryOf?_eq {r : Registry} {i : ResourceInstance} {type : Catalog.ResourceType}
    (h : r.find? i.resourceType = some type) : r.categoryOf? i = some type.category := by
  rw [categoryOf?, category?, h, Option.map_some]

/-- Only an instance of a known type has a category. -/
theorem Registry.exists_type_of_categoryOf? {r : Registry} {i : ResourceInstance}
    {category : ResourceCategory} (h : r.categoryOf? i = some category) :
    ∃ type, r.find? i.resourceType = some type ∧ type.category = category :=
  Option.map_eq_some_iff.1 h

namespace Validation

open Catalog

variable {r : Registry} {t : Topology} {i : ResourceInstance} {c : Connection} {p : Parameter} {method : String}

/-! ## Names -/

theorem checkName_eq_nil_iff :
    checkName r i = [] ↔ isBlankText i.name = false ∧ isIdentifier i.name = true := by
  rw [checkName]
  cases isBlankText i.name <;> simp [findWhen_eq_nil_iff]

theorem checkDatabaseName_eq_nil_iff :
    checkDatabaseName r i = [] ↔ ∀ d, r.databaseOf? i = some d → isIdentifier d = true := by
  rw [checkDatabaseName]
  cases r.databaseOf? i <;> simp [findWhen_eq_nil_iff]

/-- A text that is not blank is not empty. -/
theorem ne_empty_of_isBlankText {s : String} (h : isBlankText s = false) : s ≠ "" := by
  rintro rfl
  exact absurd h (by decide)

/-! ## Groups -/

section GroupBy

variable {α β : Type} [BEq β] [LawfulBEq β] {key : α → β} {members : List α}

theorem mem_groupBy {k : β} {group : List α} :
    (k, group) ∈ groupBy key members ↔
      k ∈ members.map key ∧ group = members.filter fun m => key m == k := by
  rw [groupBy, List.mem_map]
  constructor
  · rintro ⟨k', hk', h⟩
    rcases Prod.mk.inj h with ⟨rfl, rfl⟩
    exact ⟨List.mem_eraseDups.1 hk', rfl⟩
  · rintro ⟨hk, rfl⟩
    exact ⟨k, List.mem_eraseDups.2 hk, rfl⟩

/-- Two members with one key stand in the group of that key. -/
theorem sublist_group {a b : α} (hsub : [a, b].Sublist members) (hkey : key a = key b) :
    [a, b].Sublist (members.filter fun m => key m == key a) := by
  have h := hsub.filter fun m => key m == key a
  simpa [hkey] using h

/-- No group has two members if the keys differ. -/
theorem length_group_le (h : (members.map key).Nodup) (k : β) :
    (members.filter fun m => key m == k).length ≤ 1 := by
  have hcount : (members.map key).count k ≤ 1 := List.nodup_iff_count_le_one.1 h k
  rw [List.count, List.countP_map] at hcount
  rwa [← List.countP_eq_length_filter]

end GroupBy

theorem checkDuplicates_eq_nil_iff :
    checkDuplicates t = [] ↔
      ((t.instances.filter fun i => !isBlankText i.name).map ResourceInstance.name).Nodup := by
  rw [checkDuplicates, List.filterMap_eq_nil_iff]
  constructor
  · intro h
    rw [List.nodup_map_iff_forall_sublist]
    intro a b hsub hname
    have hgroup := sublist_group hsub hname
    have ha : a.name ∈ (t.instances.filter fun i => !isBlankText i.name).map ResourceInstance.name :=
      List.mem_map_of_mem (hsub.subset List.mem_cons_self)
    have hnone := h _ (mem_groupBy.2 ⟨ha, rfl⟩)
    -- a group of two or more is reported
    split at hnone
    · cases hnone
    · rename_i hno
      have hlen := hgroup.length_le
      rcases hg : (t.instances.filter fun i => !isBlankText i.name).filter fun m => m.name == a.name with
        _ | ⟨x, _ | ⟨y, others⟩⟩
      · simp [hg] at hlen
      · simp [hg] at hlen
      · exact hno _ x y others (by rw [hg])
  · rintro h ⟨k, group⟩ hmem
    rcases mem_groupBy.1 hmem with ⟨-, rfl⟩
    have hlen := length_group_le h k
    split
    · rename_i heq
      rw [(Prod.mk.inj heq).2] at hlen
      simp at hlen
    · rfl

/-! ## Variables -/

/-- The name of the resource that a variable is declared for. -/
def Origin.resource? : Origin → Option String
  | .resource name => some name
  | .database _ => none

/-- Entries that do not collide are alone, or all stand for resources of one name. -/
theorem eq_of_collides_eq_false {origins : List Origin} (h : collides origins = false)
    (hlen : 2 ≤ origins.length) : ∃ name, ∀ o ∈ origins, o = .resource name := by
  match origins with
  | .resource name :: second :: others =>
    refine ⟨name, ?_⟩
    simp only [collides, List.any_eq_false, decide_eq_true_eq, not_not] at h
    intro o ho
    rcases List.mem_cons.1 ho with rfl | ho
    · rfl
    · exact h o ho
  | .database _ :: _ :: _ => simp [collides] at h
  | [] => simp at hlen
  | [_] => simp at hlen

theorem collides_of_length_le {origins : List Origin} (h : origins.length ≤ 1) :
    collides origins = false := by
  match origins with
  | [] => rfl
  | [.resource _] => rfl
  | [.database _] => rfl
  | _ :: _ :: _ => simp at h

theorem resources_declaredFor :
    ((declaredFor r i).filterMap fun d => d.origin.resource?).Sublist [i.name] := by
  rw [declaredFor]
  split
  · exact List.nil_sublist _
  · cases r.databaseOf? i <;> simp [Origin.resource?]

/-- The variables of an instance are made from its name and that of its database. -/
theorem map_name_declaredFor (hname : isBlankText i.name = false) (htype : (r.find? i.resourceType).isSome) :
    (declaredFor r i).map Declared.name = Naming.variableName i.name ::
      (r.databaseOf? i).toList.map Naming.variableName := by
  rcases Option.isSome_iff_exists.1 htype with ⟨type, hfind⟩
  rw [declaredFor, hname, hfind]
  cases r.databaseOf? i <;> rfl

/-- Each instance declares at most one variable for itself. -/
theorem resources_flatMap (instances : List ResourceInstance) :
    ((instances.flatMap (declaredFor r)).filterMap fun d => d.origin.resource?).Sublist
      (instances.map ResourceInstance.name) := by
  induction instances with
  | nil => exact List.Sublist.refl _
  | cons i rest ih =>
    rw [List.flatMap_cons, List.filterMap_append]
    exact resources_declaredFor.append ih

/-- Where names differ, only different variables do not collide. -/
theorem checkVariables_eq_nil_iff (hnames : (t.instances.map ResourceInstance.name).Nodup) :
    checkVariables r t = [] ↔ ((t.instances.flatMap (declaredFor r)).map Declared.name).Nodup := by
  have hresources := hnames.sublist (resources_flatMap (r := r) t.instances)
  rw [checkVariables, List.flatMap_eq_nil_iff]
  constructor
  · intro h
    rw [List.nodup_map_iff_forall_sublist]
    intro a b hsub hname
    have hgroup := sublist_group hsub hname
    have ha : a.name ∈ (t.instances.flatMap (declaredFor r)).map Declared.name :=
      List.mem_map_of_mem (hsub.subset List.mem_cons_self)
    have hquiet := h _ (mem_groupBy.2 ⟨ha, rfl⟩)
    have hcollide : collides
        (((t.instances.flatMap (declaredFor r)).filter fun m => m.name == a.name).map
          Declared.origin) = false := by
      revert hquiet hgroup
      cases (t.instances.flatMap (declaredFor r)).filter fun m => m.name == a.name with
      | nil => exact fun hgroup => absurd hgroup.length_le (by simp)
      | cons first rest => exact fun _ hquiet => findWhen_eq_nil_iff.1 hquiet
    have hlen := hgroup.length_le
    rcases eq_of_collides_eq_false hcollide (by simpa using hlen) with ⟨name, hall⟩
    -- both stand for resources of one name, but no two resources share a name
    have haname : a.origin = .resource name :=
      hall _ (List.mem_map_of_mem (hgroup.subset List.mem_cons_self))
    have hbname : b.origin = .resource name :=
      hall _ (List.mem_map_of_mem (hgroup.subset (List.mem_cons_of_mem a List.mem_cons_self)))
    have hpair := hresources.sublist (hsub.filterMap fun d => d.origin.resource?)
    simp [haname, hbname, Origin.resource?] at hpair
  · rintro h ⟨k, entries⟩ hmem
    rcases mem_groupBy.1 hmem with ⟨-, rfl⟩
    have hlen := length_group_le h k
    revert hlen
    cases (t.instances.flatMap (declaredFor r)).filter fun m => m.name == k with
    | nil => exact fun _ => rfl
    | cons first rest =>
      intro hlen
      refine findWhen_eq_nil_iff.2 (collides_of_length_le ?_)
      simpa using hlen

/-! ## Connections -/

theorem checkConnection_eq_nil_iff :
    checkConnection r t c = [] ↔ ∃ source target, t.find? c.source = some source ∧
      t.find? c.target = some target ∧
        r.isConnectionValid source.resourceType target.resourceType = true ∧ c.source ≠ c.target := by
  rw [checkConnection]
  cases hsource : t.find? c.source with
  | none => simp
  | some source =>
    cases htarget : t.find? c.target with
    | none => simp
    | some target => simp [findWhen_eq_nil_iff]

/-! ## Methods -/

theorem checkNameParameter_eq_nil_iff : checkNameParameter r i = [] ↔
    ∀ type, r.find? i.resourceType = some type → ∀ p, type.builder.parameter? "name" = some p →
      i.name ≠ "" → p.check (.text i.name) = [] := by
  rw [checkNameParameter]
  cases r.find? i.resourceType with
  | none => simp
  | some type =>
    cases hparameter : type.builder.parameter? "name" with
    | none => simp [hparameter]
    | some p =>
      by_cases hname : i.name = ""
      · simp [hparameter, hname]
      · simp [hparameter, hname]

theorem checkArgument_eq_nil_iff : checkArgument i method p = .ok [] ↔
    ∃ value, builderArgument i p.name = .ok value ∧ p.check value = [] := by
  rw [checkArgument, Except.bind_eq_ok_iff]
  refine exists_congr fun value => and_congr_right fun _ => ?_
  simp [pure, Except.pure]

theorem checkReference_eq_nil_iff : checkReference r t i = [] ↔
    (t.incoming i.id = [] ∨ r.supportsChaining i.resourceType "WithReference" = true) := by
  rw [checkReference, findWhen_eq_nil_iff]
  cases t.incoming i.id with
  | nil => simp
  | cons c cs => simp

end Validation

open Validation

namespace Faultless

variable {r : Registry} {t : Topology} {i : ResourceInstance} {c : Connection}

theorem not_blank (h : Faultless r t) (hi : i ∈ t.instances) : isBlankText i.name = false :=
  (checkName_eq_nil_iff.1 (h.names i hi)).1

theorem name_ne_empty (h : Faultless r t) (hi : i ∈ t.instances) : i.name ≠ "" :=
  ne_empty_of_isBlankText (h.not_blank hi)

theorem isIdentifier_name (h : Faultless r t) (hi : i ∈ t.instances) : isIdentifier i.name = true :=
  (checkName_eq_nil_iff.1 (h.names i hi)).2

theorem isIdentifier_database (h : Faultless r t) (hi : i ∈ t.instances) {database : String}
    (hdatabase : r.databaseOf? i = some database) : isIdentifier database = true :=
  checkDatabaseName_eq_nil_iff.1 (h.databases i hi) database hdatabase

theorem filter_not_blank (h : Faultless r t) :
    (t.instances.filter fun i => !isBlankText i.name) = t.instances := by
  rw [List.filter_eq_self]
  intro i hi
  rw [h.not_blank hi, Bool.not_false]

theorem nodup_names (h : Faultless r t) : (t.instances.map ResourceInstance.name).Nodup := by
  have hnodup := checkDuplicates_eq_nil_iff.1 h.duplicates
  rwa [h.filter_not_blank] at hnodup

theorem nodup_instances (h : Faultless r t) : t.instances.Nodup :=
  List.Nodup.of_map _ h.nodup_names

theorem nodup_variables (h : Faultless r t) :
    ((t.instances.flatMap (declaredFor r)).map Declared.name).Nodup :=
  (checkVariables_eq_nil_iff h.nodup_names).1 h.declared

theorem exists_ends (h : Faultless r t) (hc : c ∈ t.connections) :
    ∃ source target, t.find? c.source = some source ∧ t.find? c.target = some target ∧
      r.isConnectionValid source.resourceType target.resourceType = true ∧ c.source ≠ c.target :=
  checkConnection_eq_nil_iff.1 (h.connections c hc)

theorem closed (h : Faultless r t) : t.Closed := by
  intro c hc
  rcases h.exists_ends hc with ⟨source, target, hsource, htarget, -⟩
  refine ⟨Topology.find?_isSome_iff.1 ?_, Topology.find?_isSome_iff.1 ?_⟩
  · rw [hsource, Option.isSome_some]
  · rw [htarget, Option.isSome_some]

theorem links_eq (h : Faultless r t) : t.links = t.connections :=
  Topology.links_eq_connections h.closed

end Faultless
end HostTopology
