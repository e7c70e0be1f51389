import HostTopology.Proofs.Cycle
import HostTopology.Proofs.Degrees
import Mathlib.Data.List.Forall2

/-!
# Relabeling — topologies under other ids

Sequencing and the search for cycles compare ids with one another and do nothing else with them. So when
all ids are replaced by others, different ones by different ones, every step goes on as before with the
new ids in place of the old. This file defines

* `Topology.relabel` — a topology under other ids, with any ids for its connections;
* `Connection.Follows`, `Topology.Relabels` — how its parts correspond;

and carries the correspondence through look-ups (`Relabels.find?_eq`), through a run of the queue
(`Sequence.run_relabel`) and through a search (`Cycle.search_relabel`), up to the results:
`Relabels.ordered_eq` and `Relabels.cycles_eq`.
-/

namespace List

variable {α β : Type} [BEq α] [LawfulBEq α] [BEq β] [LawfulBEq β] {f : α → β}

theorem eraseDups_map (hf : Function.Injective f) : ∀ l : List α, (l.map f).eraseDups = l.eraseDups.map f
  | [] => rfl
  | a :: l => by
    have hkeep : ((fun b => !b == f a) ∘ f) = fun b => !b == a := by
      funext b
      simp [hf.eq_iff, beq_eq_beq]
    have hshorter : (l.filter fun b => !b == a).length < l.length + 1 :=
      Nat.lt_succ_of_le (length_filter_le _ _)
    rw [map_cons, eraseDups_cons, eraseDups_cons, filter_map, hkeep, eraseDups_map hf, map_cons]
termination_by l => l.length

/-- Under new keys the same is found. -/
theorem lookup_map_key {γ : Type} (hf : Function.Injective f) (l : List (α × γ)) (k : α) :
    (l.map fun e => (f e.1, e.2)).lookup (f k) = l.lookup k := by
  induction l with
  | nil => rfl
  | cons e l ih =>
    have hkey : (f k == f e.1) = (k == e.1) := by simp [hf.eq_iff, beq_eq_beq]
    rw [map_cons, lookup_cons, lookup_cons, ih, hkey]

end List

namespace HostTopology

variable {f : String → String} {links links' : List Connection} {id : String}

/-! ## Other ids -/

def ResourceInstance.relabel (f : String → String) (i : ResourceInstance) : ResourceInstance :=
  { i with id := f i.id }

/-- The ids of instances are renamed, at the ends of connections too. The connection at a position has
whatever id is given for the position. -/
def Topology.relabel (f : String → String) (edgeIds : Nat → String) (t : Topology) : Topology where
  instances := t.instances.map (ResourceInstance.relabel f)
  connections := t.connections.mapIdx fun n c => ⟨edgeIds n, f c.source, f c.target, c.kind⟩

/-- A connection leads from and to the renamed ends of another. -/
structure Connection.Follows (f : String → String) (c c' : Connection) : Prop where
  source : c'.source = f c.source
  target : c'.target = f c.target

/-- The same instances are found under the new id. -/
theorem ResourceInstance.hasId_relabel (hf : Function.Injective f) (id : String) :
    (fun i : ResourceInstance => decide (i.id = f id)) ∘ relabel f = fun i => decide (i.id = id) := by
  funext i
  simp [relabel, hf.eq_iff]

open Connection (Follows)

structure Topology.Relabels (f : String → String) (t u : Topology) : Prop where
  instances : u.instances = t.instances.map (ResourceInstance.relabel f)
  connections : List.Forall₂ (Follows f) t.connections u.connections

theorem Topology.relabels_relabel (f : String → String) (edgeIds : Nat → String) (t : Topology) :
    t.Relabels f (t.relabel f edgeIds) := by
  refine ⟨rfl, ?_⟩
  rw [List.forall₂_iff_get]
  refine ⟨(List.length_mapIdx ..).symm, ?_⟩
  intro n hn hn'
  simp only [relabel, List.get_eq_getElem, List.getElem_mapIdx]
  exact ⟨rfl, rfl⟩

/-! ## Links -/

section Links

variable (hf : Function.Injective f)
include hf

theorem filter_source (h : List.Forall₂ (Follows f) links links') (id : String) :
    List.Forall₂ (Follows f) (links.filter fun c => c.source = id)
      (links'.filter fun c => c.source = f id) := by
  refine List.rel_filter ?_ h
  intro c c' hc
  simp [hc.source, hf.eq_iff]

theorem filter_target (h : List.Forall₂ (Follows f) links links') (id : String) :
    List.Forall₂ (Follows f) (links.filter fun c => c.target = id)
      (links'.filter fun c => c.target = f id) := by
  refine List.rel_filter ?_ h
  intro c c' hc
  simp [hc.target, hf.eq_iff]

end Links

namespace Topology
namespace Relabels

variable {t u : Topology} (h : t.Relabels f u) (hf : Function.Injective f)
include h

theorem ids_eq : u.ids = t.ids.map f := by
  rw [ids, ids, h.instances, List.map_map, List.map_map]
  rfl

include hf

theorem find?_eq (id : String) : u.find? (f id) = (t.find? id).map (ResourceInstance.relabel f) := by
  rw [find?, find?, h.instances, List.find?_map, ResourceInstance.hasId_relabel hf]

theorem findLast?_eq (id : String) :
    u.findLast? (f id) = (t.findLast? id).map (ResourceInstance.relabel f) := by
  rw [findLast?, findLast?, h.instances, ← List.map_reverse, List.find?_map, ResourceInstance.hasId_relabel hf]

theorem hasId_eq (id : String) : u.hasId (f id) = t.hasId id := by
  rw [Bool.eq_iff_iff, hasId_iff, hasId_iff, h.ids_eq, List.mem_map_of_injective hf]

theorem incoming_follow (id : String) : List.Forall₂ (Follows f) (t.incoming id) (u.incoming (f id)) :=
  filter_target hf h.connections id

theorem outgoing_follow (id : String) : List.Forall₂ (Follows f) (t.outgoing id) (u.outgoing (f id)) :=
  filter_source hf h.connections id

theorem links_follow : List.Forall₂ (Follows f) t.links u.links := by
  refine List.rel_filter ?_ h.connections
  intro c c' hc
  simp [hc.source, hc.target, h.hasId_eq hf]

end Relabels
end Topology

/-! ## The queue -/

namespace Sequence

variable {d : Degrees}

def Degrees.relabel (f : String → String) (d : Degrees) : Degrees :=
  d.map fun e => (f e.1, e.2)

variable (hf : Function.Injective f)
include hf

theorem successors_relabel (h : List.Forall₂ (Follows f) links links') (id : String) :
    successors links' (f id) = (successors links id).map f := by
  have htargets : ∀ {cs cs' : List Connection}, List.Forall₂ (Follows f) cs cs' →
      cs'.map Connection.target = (cs.map Connection.target).map f := by
    intro cs cs' hcs
    induction hcs with
    | nil => rfl
    | cons hc _ ih => rw [List.map_cons, hc.target, ih, List.map_cons, List.map_cons]
  exact htargets (filter_source hf h id)

theorem degree_relabel (d : Degrees) (id : String) : degree (f id) (d.relabel f) = degree id d := by
  rw [degree, degree, Degrees.relabel, List.lookup_map_key hf]

theorem lower_relabel (d : Degrees) (id : String) : lower (f id) (d.relabel f) = (lower id d).relabel f := by
  rw [lower, lower, Degrees.relabel, Degrees.relabel, List.map_map, List.map_map]
  refine List.map_congr_left fun e _ => ?_
  by_cases he : e.1 = id <;> simp [he, hf.eq_iff]

theorem startDegrees_relabel (h : List.Forall₂ (Follows f) links links') (ids : List String) :
    startDegrees (ids.map f) links' = (startDegrees ids links).relabel f := by
  rw [startDegrees, startDegrees, Degrees.relabel, List.eraseDups_map hf, List.map_map, List.map_map]
  refine List.map_congr_left fun id _ => ?_
  have hcount := (filter_target hf h id).length_eq
  rw [← List.countP_eq_length_filter, ← List.countP_eq_length_filter] at hcount
  simp only [Function.comp_apply, hcount]

theorem release_relabel (ids : List String) (d : Degrees) :
    release (ids.map f) (d.relabel f) = ((release ids d).1.map f, (release ids d).2.relabel f) := by
  induction ids generalizing d with
  | nil => rfl
  | cons id ids ih =>
    rw [List.map_cons, release_cons, release_cons, lower_relabel hf, ih, degree_relabel hf]
    split <;> rfl

/-- What one turn takes from the queue and puts behind it is renamed, and so is all that follows. -/
theorem run_relabel (h : List.Forall₂ (Follows f) links links') (n : Nat) (queue : List String)
    (d : Degrees) : run links' n (queue.map f) (d.relabel f) = (run links n queue d).map f := by
  induction n generalizing queue d with
  | zero => rfl
  | succ n ih =>
    cases queue with
    | nil => rfl
    | cons id queue =>
      have hfreed := release_relabel hf (successors links id) d
      rw [← successors_relabel hf h] at hfreed
      simp only [List.map_cons, run, hfreed, ← List.map_append, ih]

end Sequence

/-! ## Cycles -/

namespace Cycle

variable {fresh : List String} {stack : Stack}

def Frame.relabel (f : String → String) (frame : Frame) : Frame :=
  ⟨f frame.node, frame.rest.map f⟩

def Outcome.relabel (f : String → String) (o : Outcome) : Outcome :=
  ⟨o.cycle?.map (List.map f), o.fresh.map f⟩

theorem nodes_relabel (stack : Stack) : nodes (stack.map (Frame.relabel f)) = (nodes stack).map f := by
  rw [nodes, nodes, List.map_map, List.map_map]
  rfl

variable (hf : Function.Injective f)
include hf

theorem frame_relabel (h : List.Forall₂ (Follows f) links links') (id : String) :
    frame links' (f id) = (frame links id).relabel f := by
  rw [frame, Sequence.successors_relabel hf h]
  rfl

theorem loopTo_relabel (id : String) (stack : Stack) :
    loopTo (f id) (stack.map (Frame.relabel f)) = (loopTo id stack).map f := by
  have hbefore : ((fun x => decide (x ≠ f id)) ∘ f) = fun x => decide (x ≠ id) := by
    funext x
    simp [hf.eq_iff]
  have hnodes : (stack.map (Frame.relabel f)).map Frame.node = (stack.map Frame.node).map f :=
    nodes_relabel stack
  rw [loopTo, loopTo, hnodes, List.takeWhile_map, hbefore, List.map_cons, List.map_reverse]

/-- A search goes the same way under other ids. -/
theorem search_relabel (h : List.Forall₂ (Follows f) links links') (fresh : List String) (stack : Stack) :
    search links' (fresh.map f) (stack.map (Frame.relabel f)) = (search links fresh stack).relabel f := by
  have hmem : ∀ {next : String} {stack : Stack},
      next ∈ nodes stack ↔ f next ∈ nodes (stack.map (Frame.relabel f)) := by
    intro next stack
    rw [nodes_relabel, List.mem_map_of_injective hf]
  -- each case takes the same branch again, as a node is fresh or on the stack under both names or under none
  induction fresh, stack using search.induct links with
  | case1 fresh =>
    rw [List.map_nil, search_nil, search_nil]
    rfl
  | case2 fresh node below ih =>
    rw [search_pop, ← ih]
    exact search_pop
  | case3 fresh node next rest below hclose =>
    rw [search_close hclose, Outcome.relabel, Option.map_some, ← loopTo_relabel hf]
    exact search_close (hmem.1 hclose)
  | case4 fresh node next rest below hfresh hnot ih =>
    rw [List.map_erase hf, List.map_cons, ← frame_relabel hf h] at ih
    rw [search_push hnot hfresh, ← ih]
    exact search_push (fun hclose => hnot (hmem.2 hclose)) ((List.mem_map_of_injective hf).2 hfresh)
  | case5 fresh node next rest below hfresh hnot ih =>
    rw [search_skip hnot hfresh, ← ih]
    exact search_skip (fun hclose => hnot (hmem.2 hclose))
      fun hmem' => hfresh ((List.mem_map_of_injective hf).1 hmem')

theorem searchAll_relabel (h : List.Forall₂ (Follows f) links links') (starts fresh : List String) :
    searchAll links' (starts.map f) (fresh.map f) = (searchAll links starts fresh).map (List.map f) := by
  induction starts generalizing fresh with
  | nil => rfl
  | cons id starts ih =>
    have hfirst : search links' ((fresh.map f).erase (f id)) [frame links' (f id)] =
        (search links (fresh.erase id) [frame links id]).relabel f := by
      rw [← List.map_erase hf, frame_relabel hf h]
      exact search_relabel hf h (fresh.erase id) [frame links id]
    rw [List.map_cons, searchAll, searchAll]
    by_cases hid : id ∈ fresh
    · have hfound : (search links (fresh.erase id) [frame links id]).cycle?.toList.map (List.map f) =
          ((search links (fresh.erase id) [frame links id]).relabel f).cycle?.toList := by
        rw [Outcome.relabel, Option.toList_map]
      rw [if_pos hid, if_pos (List.mem_map_of_mem hid), hfirst, List.map_append, hfound, ← ih]
      rfl
    · rw [if_neg hid, if_neg fun hmem => hid ((List.mem_map_of_injective hf).1 hmem), ih]

end Cycle

/-! ## Order and cycles of topologies -/

namespace Topology
namespace Relabels

variable {t u : Topology} (h : t.Relabels f u) (hf : Function.Injective f)
include h hf

theorem order_eq : u.order = t.order.map f := by
  have hlength : u.instances.length = t.instances.length := by rw [h.instances, List.length_map]
  have hfree : ((fun id => decide (Sequence.degree id ((Sequence.startDegrees t.ids t.links).relabel f) = 0)) ∘ f) =
      fun id => decide (Sequence.degree id (Sequence.startDegrees t.ids t.links) = 0) := by
    funext id
    rw [Function.comp_apply, Sequence.degree_relabel hf]
  rw [order, order, h.ids_eq, hlength, Sequence.startDegrees_relabel hf (h.links_follow hf), List.filter_map, hfree]
  exact Sequence.run_relabel hf (h.links_follow hf) _ _ _

theorem ordered_eq : u.sequence.ordered = t.sequence.ordered.map (ResourceInstance.relabel f) := by
  rw [sequence, sequence, h.order_eq hf, List.filterMap_map, List.map_filterMap]
  refine List.filterMap_congr fun id _ => ?_
  exact h.findLast?_eq hf id

theorem cycles_eq : u.cycles = t.cycles.map (List.map f) := by
  rw [cycles, cycles, h.ids_eq, List.eraseDups_map hf]
  exact Cycle.searchAll_relabel hf (h.links_follow hf) _ _

end Relabels
end Topology
end HostTopology
