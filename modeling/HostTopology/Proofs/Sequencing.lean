import HostTopology.Proofs.Order

/-!
# Sequencing — what a sequence of instances is

`Order` is about ids. This file says the same of the instances of a topology whose ids differ, and adds what
comes first: an id that nothing holds back is in the queue from the start, and the queue is first in, first out.

* `take_prefix_run` — what is in the queue leaves it before anything that is set free later;
* `IsSequencing` — the contract of a sequence: nothing is lost, sources stand before their targets, only what
  lies on a cycle or behind one is left over, and what nothing holds back stands in front;
* `sequence_isSequencing` — `Topology.sequence` keeps it, and `Topology.sequenceAll` fails exactly where
  something is left over.
-/

namespace HostTopology
namespace Sequence

/-- What is set free queues behind what is in the queue. -/
theorem take_prefix_run (links : List Connection) (n : Nat) (queue : List String) (d : Degrees) :
    queue.take n <+: run links n queue d := by
  induction n generalizing queue d with
  | zero => exact List.nil_prefix
  | succ n ih =>
    cases queue with
    | nil => exact List.nil_prefix
    | cons id queue =>
      rw [List.take_succ_cons, run, List.prefix_cons_inj]
      calc queue.take n
          <+: (queue ++ (release (successors links id) d).1).take n := (List.prefix_append _ _).take n
        _ <+: run links n (queue ++ (release (successors links id) d).1) (release (successors links id) d).2 := ih _ _

end Sequence

namespace Topology

open Sequence

variable {t : Topology} {i : ResourceInstance} {c : Connection}

/-! ## Instances without a source -/

/-- No link leads to the instance. -/
def IsRoot (t : Topology) (i : ResourceInstance) : Prop :=
  ∀ c ∈ t.links, c.target ≠ i.id

instance (t : Topology) (i : ResourceInstance) : Decidable (t.IsRoot i) :=
  inferInstanceAs (Decidable (∀ c ∈ t.links, c.target ≠ i.id))

theorem degree_eq_zero_iff (hi : i ∈ t.instances) :
    degree i.id (startDegrees t.ids t.links) = 0 ↔ t.IsRoot i := by
  rw [degree_startDegrees (mem_ids_of_mem hi), Int.natCast_eq_zero, List.countP_eq_zero]
  simp [IsRoot]

/-- The ids that nothing holds back at the start. -/
theorem free_eq_roots (t : Topology) : (t.ids.filter fun id => degree id (startDegrees t.ids t.links) = 0) =
    (t.instances.filter fun i => t.IsRoot i).map ResourceInstance.id := by
  let isFree (id : String) : Bool := degree id (startDegrees t.ids t.links) = 0
  have hroots : t.instances.filter (isFree ∘ ResourceInstance.id) = t.instances.filter fun i => t.IsRoot i :=
    List.filter_congr fun i hi => decide_eq_decide.2 (degree_eq_zero_iff hi)
  rw [← hroots]
  exact List.filter_map

/-- All of them are in the queue from the start. -/
theorem roots_prefix (hd : t.DistinctIds) :
    t.instances.filter (fun i => t.IsRoot i) <+: t.sequence.ordered := by
  let free : List String := t.ids.filter fun id => degree id (startDegrees t.ids t.links) = 0
  have hfree : free = (t.instances.filter fun i => t.IsRoot i).map ResourceInstance.id := free_eq_roots t
  -- as many ids may leave the queue as there are instances, so none of the free ones is cut off
  have hlength : free.length ≤ t.instances.length := by
    rw [hfree, List.length_map]
    exact List.length_filter_le _ _
  have horder : free <+: t.order := by
    have hrun := take_prefix_run t.links t.instances.length free (startDegrees t.ids t.links)
    rwa [List.take_of_length_le hlength] at hrun
  rw [ordered_eq_filterMap_find? hd]
  have hfind := horder.filterMap t.find?
  rwa [hfree, filterMap_find?_map_id hd fun i hi => (List.mem_filter.1 hi).1] at hfind

/-! ## Sources and targets -/

/-- The source of a link stands before its target, if that is in order. -/
theorem exists_before_of_mem_links (hd : t.DistinctIds) (hc : c ∈ t.links) {target : ResourceInstance}
    {before after : List ResourceInstance} (hsplit : t.sequence.ordered = before ++ target :: after)
    (htarget : target.id = c.target) : ∃ source ∈ before, source.id = c.source := by
  have horder := order_dependencyOrder hd
  have hnodup := horder.nodup
  have hids := horder.ordered
  -- an id stands where its instance does
  rw [← map_id_ordered hd, hsplit, List.map_append, List.map_cons] at hnodup hids
  have hlead : Leads t.links c.source target.id := ⟨c, hc, rfl, htarget.symm⟩
  exact List.mem_map.1 (hids.source_mem_before hnodup hlead)

/-! ## The contract -/

theorem sequenceAll_eq (t : Topology) : t.sequenceAll =
    if t.sequence.unsequenced = [] then .ok t.sequence else .error ⟨t.sequence.unsequenced⟩ := by
  simp only [sequenceAll, List.isEmpty_iff]

/-- What a sequence of the instances of a topology has to be. -/
structure IsSequencing (t : Topology) (s : Sequenced) : Prop where
  /-- Every instance is in order or left over, and once. -/
  perm : (s.ordered ++ s.unsequenced).Perm t.instances
  /-- What is left over stands in topology order. -/
  sublist : s.unsequenced.Sublist t.instances
  /-- If the target of a link is in order, so is its source, and before it. -/
  sources : ∀ c ∈ t.links, ∀ before target after, s.ordered = before ++ target :: after →
    target.id = c.target → ∃ source ∈ before, source.id = c.source
  /-- What lies on a cycle of links, or behind one, is left over, and nothing else. -/
  leftover : ∀ i ∈ t.instances, i ∈ s.unsequenced ↔
    ∃ id, OnCycle t.links id ∧ Relation.ReflTransGen (Leads t.links) id i.id
  /-- The instances that no link leads to come first, in topology order. -/
  roots : t.instances.filter (fun i => t.IsRoot i) <+: s.ordered

/-- Where ids differ a sequence keeps its contract, and a sequence of all instances is refused exactly if
some of them are left over. -/
theorem sequence_isSequencing (hd : t.DistinctIds) : t.IsSequencing t.sequence ∧
    ((∃ e, t.sequenceAll = .error e) ↔ t.sequence.unsequenced ≠ []) ∧
      (∀ e, t.sequenceAll = .error e → e.unsequenced = t.sequence.unsequenced) ∧
        ∀ s, t.sequenceAll = .ok s → s = t.sequence := by
  have horder := order_dependencyOrder hd
  refine ⟨?_, ?_⟩
  · constructor
    case perm => exact ordered_append_unsequenced_perm hd
    case sublist => exact List.filter_sublist
    case sources =>
      intro c hc before target after hsplit htarget
      exact exists_before_of_mem_links hd hc hsplit htarget
    case leftover =>
      intro i hi
      rw [mem_unsequenced, and_iff_right hi, horder.not_mem_iff t.links_joins (mem_ids_of_mem hi)]
    case roots => exact roots_prefix hd
  · rw [sequenceAll_eq]
    by_cases hleft : t.sequence.unsequenced = []
    · simp [hleft]
    · simp [hleft]

end Topology

/-- A service behind another by two links, one that depends on itself, and one behind that. -/
def stalled : Topology :=
  let service (id : String) : ResourceInstance := ⟨id, "dotnet-project", id, none, .empty⟩
  ⟨["a", "b", "c", "d"].map service,
    [.make "" "a" "b" .reference, .make "" "a" "b" .waitFor, .make "" "c" "c" .reference,
      .make "" "c" "d" .reference, .make "" "z" "b" .reference]⟩

theorem stalled_isSequencing : stalled.IsSequencing stalled.sequence ∧
    stalled.sequence.ordered.map ResourceInstance.id = ["a", "b"] ∧ ∃ e, stalled.sequenceAll = .error e := by
  have hd : stalled.DistinctIds := by decide +kernel
  rcases Topology.sequence_isSequencing hd with ⟨hsequence, hstrict, -⟩
  exact ⟨hsequence, by decide +kernel, hstrict.2 (by decide +kernel)⟩

end HostTopology
