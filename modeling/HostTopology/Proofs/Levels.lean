import HostTopology.Proofs.Sequencing
import Mathlib.Data.Nat.Find
import Mathlib.Order.Bounds.Defs

/-!
# Levels — how deep in the graph the instances in order stand

The depth of an instance is the number of links in the longest chain that ends at it. The queue is first in, first
out, so that a chain to an instance has a chain of the same length beside it to every later one, and sequencing goes
through the depths from the roots down.

* `EndsChain` — a chain of so many links ends at an id;
* `Ordered.endsChain_of_idxOf_le` — what stands later in the order ends all the chains that what stands earlier does;
* `Ordered.le_idxOf` — a chain to an id is not longer than what stands before the id;
* `Topology.depth` — the length of the longest chain, among those that are not too long to exist;
* `ordered_levels` — depths do not fall along the order, and only what is left over has none.
-/

namespace HostTopology
namespace Sequence

variable {links : List Connection} {order : List String} {a x y : String} {m n : Nat}

/-! ## Chains of links -/

/-- Some `n` links, of which each leads to where the next one starts, lead to an id at last. -/
def EndsChain (links : List Connection) : Nat → String → Prop
  | 0, _ => True
  | n + 1, x => ∃ c ∈ links, c.target = x ∧ EndsChain links n c.source

instance decidableEndsChain (links : List Connection) : ∀ n x, Decidable (EndsChain links n x)
  | 0, _ => inferInstanceAs (Decidable True)
  | n + 1, x =>
    have : ∀ c : Connection, Decidable (EndsChain links n c.source) := fun c => decidableEndsChain links n c.source
    inferInstanceAs (Decidable (∃ c ∈ links, c.target = x ∧ EndsChain links n c.source))

theorem endsChain_succ_iff : EndsChain links (n + 1) x ↔ ∃ a, Leads links a x ∧ EndsChain links n a := by
  constructor
  · rintro ⟨c, hc, hx, hchain⟩
    exact ⟨c.source, ⟨c, hc, rfl, hx⟩, hchain⟩
  · rintro ⟨a, ⟨c, hc, rfl, hx⟩, hchain⟩
    exact ⟨c, hc, hx, hchain⟩

/-- The first link of a chain can be left out. -/
theorem EndsChain.of_succ (h : EndsChain links (n + 1) x) : EndsChain links n x := by
  induction n generalizing x with
  | zero => exact trivial
  | succ n ih =>
    obtain ⟨a, hlead, hchain⟩ := endsChain_succ_iff.1 h
    exact endsChain_succ_iff.2 ⟨a, hlead, ih hchain⟩

theorem EndsChain.of_transGen (hax : Relation.TransGen (Leads links) a x) (h : EndsChain links n a) :
    EndsChain links (n + 1) x := by
  induction hax with
  | single hlead => exact endsChain_succ_iff.2 ⟨a, hlead, h⟩
  | tail _ hlead ih => exact endsChain_succ_iff.2 ⟨_, hlead, ih.of_succ⟩

/-- A chain can run along a cycle as often as one likes. -/
theorem endsChain_of_onCycle (h : OnCycle links x) (n : Nat) : EndsChain links n x := by
  induction n with
  | zero => exact trivial
  | succ n ih => exact ih.of_transGen h

theorem endsChain_of_behind_cycle (ha : OnCycle links a) (hax : Relation.ReflTransGen (Leads links) a x) (n : Nat) :
    EndsChain links n x := by
  rcases Relation.reflTransGen_iff_eq_or_transGen.1 hax with rfl | hax
  · exact endsChain_of_onCycle ha n
  · exact ((endsChain_of_onCycle ha n).of_transGen hax).of_succ

/-! ## Chains and the order -/

namespace Ordered

variable (h : Ordered links order)
include h

theorem exists_source_after (hx : x ∈ order) (hy : y ∈ order) (hxy : order.idxOf x < order.idxOf y)
    (ha : Leads links a x) : ∃ b, Leads links b y ∧ order.idxOf a ≤ order.idxOf b := by
  have hfifo := List.pairwise_iff_getElem.1 h.fifo _ _ (List.idxOf_lt_length_iff.2 hx) (List.idxOf_lt_length_iff.2 hy) hxy
  rw [List.getElem_idxOf, List.getElem_idxOf] at hfifo
  exact hfifo a ha

/-- Sources of what stands later stand later, and so do the sources of these. -/
theorem endsChain_of_idxOf_le (hx : x ∈ order) (hy : y ∈ order) (hxy : order.idxOf x ≤ order.idxOf y)
    (hchain : EndsChain links n x) : EndsChain links n y := by
  induction n generalizing x y with
  | zero => exact trivial
  | succ n ih =>
    rcases hxy.eq_or_lt with heq | hlt
    · exact (List.idxOf_inj hx).1 heq ▸ hchain
    · obtain ⟨a, ha, hchain⟩ := endsChain_succ_iff.1 hchain
      obtain ⟨b, hb, hab⟩ := h.exists_source_after hx hy hlt ha
      exact endsChain_succ_iff.2 ⟨b, hb, ih (h.sources x hx a ha).1 (h.sources y hy b hb).1 hab hchain⟩

/-- Every link of a chain leads on in the order. -/
theorem le_idxOf (hx : x ∈ order) (hchain : EndsChain links n x) : n ≤ order.idxOf x := by
  induction n generalizing x with
  | zero => exact Nat.zero_le _
  | succ n ih =>
    obtain ⟨a, ha, hchain⟩ := endsChain_succ_iff.1 hchain
    obtain ⟨hmem, hlt⟩ := h.sources x hx a ha
    exact (ih hmem hchain).trans_lt hlt

end Ordered
end Sequence

/-! ## Depths -/

namespace Topology

open Sequence

variable {t : Topology} {i : ResourceInstance}

/-- The length of the longest chain of links that ends at an id. A chain with more links than there are instances
has gone round a cycle. -/
def depth (t : Topology) (id : String) : Nat :=
  Nat.findGreatest (fun n => EndsChain t.links n id) t.instances.length

theorem isGreatest_depth (hd : t.DistinctIds) (hi : i ∈ t.sequence.ordered) :
    IsGreatest {n | EndsChain t.links n i.id} (t.depth i.id) := by
  have horder := order_dependencyOrder hd
  have hbound : ∀ n, EndsChain t.links n i.id → n ≤ t.instances.length := by
    intro n hchain
    have hid : i.id ∈ t.order := ((mem_ordered hd).1 hi).2
    calc n ≤ t.order.idxOf i.id := horder.ordered.le_idxOf hid hchain
      _ ≤ t.order.length := List.idxOf_le_length
      _ ≤ t.ids.length := (List.subperm_of_subset horder.nodup horder.subset).length_le
      _ = t.instances.length := List.length_map _
  constructor
  · exact Nat.findGreatest_spec (P := fun n => EndsChain t.links n i.id) (Nat.zero_le _) trivial
  · exact fun n hchain => Nat.le_findGreatest (hbound n hchain) hchain

/-- Where ids differ, sequencing goes from one depth to the next: the depths of the instances in order do not fall.
An instance is left over exactly if it has no depth, because chains to it can be as long as one likes. -/
theorem ordered_levels (hd : t.DistinctIds) :
    (t.sequence.ordered.map fun i => t.depth i.id).Pairwise (· ≤ ·) ∧
      (∀ i ∈ t.sequence.ordered, IsGreatest {n | EndsChain t.links n i.id} (t.depth i.id)) ∧
        ∀ i ∈ t.instances, i ∈ t.sequence.unsequenced ↔ ∀ n, EndsChain t.links n i.id := by
  have horder := order_dependencyOrder hd
  refine ⟨?_, fun i hi => isGreatest_depth hd hi, fun i hi => ?_⟩
  · have hplaces : t.sequence.ordered.Pairwise fun i j => t.order.idxOf i.id < t.order.idxOf j.id := by
      have hpairwise := pairwise_idxOf horder.nodup
      rw [← map_id_ordered hd, List.pairwise_map] at hpairwise
      rwa [← map_id_ordered hd]
    rw [List.pairwise_map]
    refine hplaces.imp_of_mem fun {i j} hi hj hij => ?_
    -- the longest chain to the earlier one has a chain to the later one beside it
    have hchain := horder.ordered.endsChain_of_idxOf_le ((mem_ordered hd).1 hi).2 ((mem_ordered hd).1 hj).2 hij.le
      (isGreatest_depth hd hi).1
    exact (isGreatest_depth hd hj).2 hchain
  · rw [mem_unsequenced, and_iff_right hi]
    constructor
    · intro hleft
      obtain ⟨a, ha, hai⟩ := (horder.not_mem_iff t.links_joins (mem_ids_of_mem hi)).1 hleft
      exact endsChain_of_behind_cycle ha hai
    · intro hchains hid
      have hle := horder.ordered.le_idxOf hid (hchains (t.order.idxOf i.id + 1))
      omega

end Topology

/-- A service that is reached from the first root at once and by a longer way, where two connections run side by
side, one behind the second root, and two that depend on each other. -/
def layered : Topology :=
  let service (id : String) : ResourceInstance := ⟨id, "dotnet-project", id, none, .empty⟩
  ⟨["d", "a", "b", "e", "c", "x", "y"].map service,
    [.make "" "a" "d" .reference, .make "" "a" "b" .reference, .make "" "a" "b" .waitFor, .make "" "b" "d" .reference,
      .make "" "e" "c" .reference, .make "" "x" "y" .reference, .make "" "y" "x" .reference, .make "" "x" "c" .reference]⟩

theorem layered_levels : layered.sequence.ordered.map ResourceInstance.id = ["a", "e", "b", "d"] ∧
    (layered.sequence.ordered.map fun i => layered.depth i.id) = [0, 0, 1, 2] ∧
    (layered.sequence.ordered.map fun i => layered.depth i.id).Pairwise (· ≤ ·) := by
  have hd : layered.DistinctIds := by decide
  exact ⟨by decide, by decide, (Topology.ordered_levels hd).1⟩

end HostTopology
