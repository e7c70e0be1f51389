import HostTopology.Proofs.Families
import HostTopology.Proofs.Names
import HostTopology.Proofs.Sequencing

/-!
# Agreement — validation and sequencing see the same cycles and the same instances

Validation walks depth first to find cycles; sequencing counts what holds back each id. Both look at
the same links, and both are stated in terms of `OnCycle`.

* `circular_iff_unsequenced` — where ids differ, an instance is left over exactly if a cycle is
  reported, exactly if there is one;
* `ordered_perm_iff` — what is generated holds every instance once exactly if the ids differ.
-/

namespace HostTopology
namespace Validation

variable {r : Registry} {t : Topology} {i : ResourceInstance} {f : Finding}

/-! ## Reports about cycles -/

theorem severity_of_isCircular (h : f.isCircular = true) : f.severity = .error := by
  cases f with
  | cycle first rest => rfl
  | _ => cases h

theorem isCircular_of_mem_checkCycles (hf : f ∈ checkCycles r t) : f.isCircular = true := by
  rcases exists_of_mem_checkCycles hf with ⟨first, rest, rfl, -⟩
  rfl

theorem Quiet.not_mem {found : List Finding} (h : Quiet found) (hc : f.isCircular = true) :
    f ∉ found := by
  intro hf
  exact h f hf (severity_of_isCircular hc)

theorem family_of_isCircular (h : f.isCircular = true) : f.family = .architecture := by
  cases f with
  | cycle first rest => rfl
  | _ => cases h

/-- Only the search for cycles reports cycles. -/
theorem mem_findings_iff {v : Report} (hv : t.validate r = .ok v) (hc : f.isCircular = true) :
    f ∈ v.findings ↔ f ∈ checkCycles r t := by
  rw [mem_findings_of_architecture hv (family_of_isCircular hc)]
  exact or_iff_right (quiet_checkArchitecture.not_mem hc)

theorem mem_checkCycles_iff {v : Report} (hv : t.validate r = .ok v) :
    f ∈ checkCycles r t ↔ f ∈ v.findings ∧ f.isCircular = true := by
  constructor
  · intro hf
    have hc := isCircular_of_mem_checkCycles hf
    exact ⟨(mem_findings_iff hv hc).2 hf, hc⟩
  · rintro ⟨hf, hc⟩
    exact (mem_findings_iff hv hc).1 hf

end Validation

open Validation Catalog

variable {r : Registry} {t : Topology} {i : ResourceInstance} {f : Finding} {o : RenderOptions}

/-! ## Cycles -/

/-- An id on a cycle never leaves the queue. -/
theorem exists_unsequenced_of_onCycle (hd : t.DistinctIds) {id : String} (h : OnCycle t.links id) :
    ∃ i ∈ t.sequence.unsequenced, i.id = id := by
  have horder := Topology.order_dependencyOrder hd
  rcases List.mem_map.1 (t.links_joins.mem_of_onCycle h) with ⟨i, hi, rfl⟩
  refine ⟨i, Topology.mem_unsequenced.2 ⟨hi, ?_⟩, rfl⟩
  intro hmem
  exact horder.ordered.not_onCycle hmem h

theorem exists_unsequenced_of_reported (hd : t.DistinctIds) (hf : f ∈ checkCycles r t) {id : String}
    (hid : id ∈ f.related) : ∃ i ∈ t.sequence.unsequenced, i.id = id := by
  rcases exists_of_mem_checkCycles hf with ⟨first, rest, -, hcycle⟩
  exact exists_unsequenced_of_onCycle hd ((Topology.isCycle_of_mem_cycles hcycle).onCycle hid)

theorem Faultless.unsequenced_eq_nil (h : Faultless r t) (hd : t.DistinctIds) :
    t.sequence.unsequenced = [] :=
  (Topology.unsequenced_eq_nil_iff hd).2 h.acyclic

/-- Where ids differ, the findings about cycles in a report, the instances that sequencing leaves
over, and the cycles along links go together; and what is not blocked is sequenced completely. -/
theorem circular_iff_unsequenced (r : Registry) (hd : t.DistinctIds) :
    (checkCycles r t ≠ [] ↔ t.sequence.unsequenced ≠ []) ∧
      (t.sequence.unsequenced ≠ [] ↔ ∃ id, OnCycle t.links id) ∧
        (∀ f ∈ checkCycles r t, f.severity = .error ∧ f.isCircular = true ∧
          ∀ id ∈ f.related, ∃ i ∈ t.sequence.unsequenced, i.id = id) ∧
          (∀ v, t.validate r = .ok v → ∀ f, f ∈ checkCycles r t ↔ f ∈ v.findings ∧ f.isCircular = true) ∧
            ∀ o a, t.compile r o = .ok a → a.isBlocked = false →
              t.sequence.unsequenced = [] ∧ t.sequenceAll = .ok t.sequence := by
  have hsequence := Topology.unsequenced_eq_nil_iff hd
  refine ⟨?_, ?_, ?_, ?_, ?_⟩
  · rw [Ne, Ne, checkCycles_eq_nil_iff, Topology.cycles_eq_nil_iff, hsequence]
  · rw [Ne, hsequence, Acyclic, not_forall_not]
  · intro f hf
    refine ⟨severity_checkCycles f hf, isCircular_of_mem_checkCycles hf, ?_⟩
    intro id hid
    exact exists_unsequenced_of_reported hd hf hid
  · intro v hv f
    exact mem_checkCycles_iff hv
  · intro o a hok hblocked
    have hnil := (compile_unblocked_iff.1 ⟨hok, hblocked⟩).1.unsequenced_eq_nil hd
    exact ⟨hnil, by rw [Topology.sequenceAll_eq, if_pos hnil]⟩

/-- Two services that depend on each other, and one that depends on itself. -/
def entangled : Topology :=
  let service (id : String) : ResourceInstance := ⟨id, "dotnet-project", id, none, .empty⟩
  ⟨["a", "b", "c", "d"].map service,
    [.make "" "a" "b" .reference, .make "" "b" "c" .reference, .make "" "c" "b" .waitFor,
      .make "" "d" "d" .reference]⟩

theorem entangled_circular :
    entangled.DistinctIds ∧ checkCycles .standard entangled ≠ [] ∧ ∃ id, OnCycle entangled.links id := by
  have hd : entangled.DistinctIds := by decide +kernel
  rcases circular_iff_unsequenced .standard hd with ⟨hreported, hcycle, -⟩
  have hleft : entangled.sequence.unsequenced ≠ [] := by decide +kernel
  exact ⟨hd, hreported.2 hleft, hcycle.1 hleft⟩

/-! ## Instances -/

/-- No two instances with one name are in order, so no two with one id are: each is the last. -/
theorem Faultless.distinctIds_of_perm (h : Faultless r t) (hperm : t.sequence.ordered.Perm t.instances) :
    t.DistinctIds := by
  refine List.Nodup.map_on ?_ h.nodup_instances
  intro i hi j hj hid
  have hilast := Topology.findLast?_of_mem_ordered (hperm.mem_iff.2 hi)
  have hjlast := Topology.findLast?_of_mem_ordered (hperm.mem_iff.2 hj)
  rw [hid, hjlast] at hilast
  exact (Option.some.inj hilast).symm

theorem Faultless.ordered_perm (h : Faultless r t) (hd : t.DistinctIds) :
    t.sequence.ordered.Perm t.instances :=
  Topology.ordered_perm hd h.acyclic

theorem Faultless.isSome_declare? (h : Faultless r t) (hi : i ∈ t.instances)
    (hknown : (r.find? i.resourceType).isSome) : (AppHost.declare? r t i).isSome := by
  have hpresent : AppHost.present i.name = true := by
    simpa [AppHost.present] using h.name_ne_empty hi
  rw [AppHost.declare?, hpresent]
  simpa using hknown

/-- What is generated is made from a permutation of the instances exactly if their ids differ. Then
every instance of a known type is declared, and declared once. -/
theorem ordered_perm_iff {a : Artifacts} (hok : t.compile r o = .ok a) (hblocked : a.isBlocked = false) :
    a = Artifacts.ofOrdered r o t t.sequence.ordered ∧
      (t.sequence.ordered.Perm t.instances ↔ t.DistinctIds) ∧
        (t.DistinctIds → ∀ i ∈ t.instances, (r.find? i.resourceType).isSome →
          t.sequence.ordered.count i = 1 ∧ (AppHost.declare? r t i).isSome) := by
  rcases compile_unblocked_iff.1 ⟨hok, hblocked⟩ with ⟨hfaultless, -, ha⟩
  refine ⟨ha, ⟨hfaultless.distinctIds_of_perm, hfaultless.ordered_perm⟩, ?_⟩
  intro hd i hi hknown
  have hperm := hfaultless.ordered_perm hd
  refine ⟨?_, hfaultless.isSome_declare? hi hknown⟩
  rw [hperm.count_eq]
  exact List.count_eq_one_of_mem hfaultless.nodup_instances hi

/-- A database server with a database, and a service that uses it. -/
def shop : Topology where
  instances := [⟨"1", "postgres", "pg", some "appdb", .empty⟩, ⟨"2", "dotnet-project", "api", none, .empty⟩]
  connections := [.make "" "1" "2" .reference]

theorem shop_distinctIds : shop.DistinctIds := by decide

theorem shop_faultless : Faultless .standard shop := by
  have hrules : PassesRules .standard shop := by decide
  exact hrules.faultless ((Topology.unsequenced_eq_nil_iff shop_distinctIds).1 (by decide))

theorem shop_compile : shop.compile .standard .standard =
      .ok (.ofOrdered .standard .standard shop shop.sequence.ordered) ∧
    (Artifacts.ofOrdered .standard .standard shop shop.sequence.ordered).isBlocked = false := by
  have hwritable : Writable .standard .standard shop shop.sequence.ordered :=
    ⟨⟨"    ", by decide +kernel⟩, by decide +kernel⟩
  exact compile_unblocked_iff.2 ⟨shop_faultless, hwritable, rfl⟩

theorem shop_ordered_perm : shop.sequence.ordered.Perm shop.instances := by
  rcases shop_compile with ⟨hok, hblocked⟩
  exact (ordered_perm_iff hok hblocked).2.1.2 shop_distinctIds

/-- Two caches with one id. The second stands twice in the order, the first not at all. -/
def repeated : Topology where
  instances := [⟨"a", "redis", "x", none, .empty⟩, ⟨"a", "redis", "y", none, .empty⟩]
  connections := []

theorem repeated_faultless : Faultless .standard repeated := by
  have hrules : PassesRules .standard repeated := by decide
  exact hrules.faultless acyclic_nil

theorem repeated_not_perm : ∃ a, repeated.compile .standard .standard = .ok a ∧ a.isBlocked = false ∧
    ¬ repeated.sequence.ordered.Perm repeated.instances := by
  have hwritable : Writable .standard .standard repeated repeated.sequence.ordered :=
    ⟨⟨"    ", by decide +kernel⟩, by decide +kernel⟩
  rcases compile_unblocked_iff.2 ⟨repeated_faultless, hwritable, rfl⟩ with ⟨hok, hblocked⟩
  exact ⟨_, hok, hblocked, by decide +kernel⟩

end HostTopology
