import HostTopology.Proofs.Numbering
import HostTopology.Proofs.Renaming
import HostTopology.Proofs.Replay

/-!
# Reissue — the topology that is read back, with its new ids

What is read back has the declared instances in their order under numbered ids, and the connections
between them, those to one target together. This file defines

* `idAt` — the id at a position of a sketch, when no id is reserved;
* `newId` — the id that an instance is read back under;
* `reissued` — the topology that is read back;

and proves that this is what the import gives (`Listing.topology_imported`), that the new ids stand
for the same instances (`Listing.find?_newId`, `Listing.incoming_newId`), and that the instances are
in dependency order already (`Listing.ordered_reissued`).
-/

namespace HostTopology

/-! ## Numbered ids -/

/-- The id at a position, when none is reserved. -/
def idAt (n : Nat) : String :=
  importedId (firstImportedId + n)

theorem idAt_inj {m n : Nat} (h : idAt m = idAt n) : m = n :=
  Nat.add_left_cancel (importedId_inj h)

theorem freshIds_nil (n : Nat) : freshIds [] n = (List.range n).map idAt := by
  have hfilter : ∀ ids : List String, (ids.filter fun id => !([] : List String).contains id) = ids := by
    intro ids
    rw [List.filter_eq_self]
    exact fun _ _ => rfl
  rw [freshIds, List.length_nil, Nat.add_zero]
  simp only [hfilter]
  rw [List.take_of_length_le (by rw [List.length_map, List.length_range])]
  rfl

theorem getD_idAt {m n : Nat} (h : n < m) : ((List.range m).map idAt).getD n "" = idAt n := by
  have hlen : n < ((List.range m).map idAt).length := by rwa [List.length_map, List.length_range]
  rw [← List.getElem_eq_getD "" (h := hlen), List.getElem_map, List.getElem_range]

namespace Sketch

variable {s : Sketch}

theorem instances_imported (s : Sketch) : (s.imported []).topology.instances =
    s.drafts.zipWith Draft.withId ((List.range s.drafts.length).map idAt) := by
  rw [imported, freshIds_nil]

theorem connections_imported (s : Sketch) : (s.imported []).topology.connections =
    s.links.map (connection ((List.range s.drafts.length).map idAt)) := by
  rw [imported, freshIds_nil]

theorem find?_imported {n : Nat} {d : Draft} (h : s.drafts[n]? = some d) :
    (s.imported []).topology.find? (idAt n) = some (d.withId (idAt n)) := by
  rw [Topology.find?_eq_some_iff (s.distinctIds_imported []), instances_imported]
  rcases List.getElem?_eq_some_iff.1 h with ⟨hn, rfl⟩
  refine ⟨List.mem_of_getElem? (i := n) ?_, rfl⟩
  simp [hn]

end Sketch

namespace AppHost

open Catalog Sequence Validation

variable {t : Topology} {l l₁ l₂ : List ResourceInstance} {i j : ResourceInstance} {c : Connection}

/-- The id that an instance is read back under. -/
def newId (l : List ResourceInstance) (id : String) : String :=
  importedId (firstImportedId + place l id)

def newInstance (l : List ResourceInstance) (i : ResourceInstance) : ResourceInstance :=
  (recovered i).withId (newId l i.id)

@[simp] theorem newInstance_id : (newInstance l i).id = newId l i.id := rfl

@[simp] theorem newInstance_resourceType : (newInstance l i).resourceType = i.resourceType := rfl

@[simp] theorem newInstance_name : (newInstance l i).name = i.name := rfl

@[simp] theorem newInstance_database :
    (newInstance l i).database = Registry.standard.databaseOf? i := rfl

@[simp] theorem newInstance_config : (newInstance l i).config = recoveredConfig i := rfl

def newConnection (l : List ResourceInstance) (c : Connection) : Connection :=
  Connection.make "" (newId l c.source) (newId l c.target) .reference

@[simp] theorem newConnection_source : (newConnection l c).source = newId l c.source := rfl

@[simp] theorem newConnection_target : (newConnection l c).target = newId l c.target := rfl

/-- The topology that is read back. -/
def reissued (t : Topology) (l : List ResourceInstance) : Topology where
  instances := l.map (newInstance l)
  connections := l.flatMap fun i => (t.incoming i.id).map (newConnection l)

namespace Listing

theorem newId_inj (hi : i ∈ l) {id : String} (heq : newId l i.id = newId l id) : i.id = id :=
  place_inj hi (idAt_inj heq)

/-! ## The import -/

theorem zipWith_recovered (h : Listing t l) :
    (l.map recovered).zipWith Draft.withId ((List.range l.length).map idAt) = l.map (newInstance l) := by
  apply List.ext_getElem
  · simp
  · intro k hk hk'
    have hkl : k < l.length := by simpa using hk'
    have hlen : k < (l.map ResourceInstance.id).length := by rwa [List.length_map]
    have hplace : place l l[k].id = k := by
      have hidx := h.ids.idxOf_getElem k hlen
      rwa [List.getElem_map] at hidx
    simp only [List.getElem_zipWith, List.getElem_map, List.getElem_range, newInstance, newId, hplace, idAt]

theorem getD_place (hi : i ∈ l) : ((List.range l.length).map idAt).getD (place l i.id) "" = newId l i.id :=
  getD_idAt (place_lt hi)

theorem topology_imported (h : Listing t l) {s : Sketch} (hdrafts : s.drafts = l.map recovered)
    (hlinks : s.links = l.flatMap (linksTo t l)) : (s.imported []).topology = reissued t l := by
  have hinstances : (s.imported []).topology.instances = (reissued t l).instances := by
    rw [Sketch.instances_imported, hdrafts, List.length_map, h.zipWith_recovered, reissued]
  have hconnections : (s.imported []).topology.connections = (reissued t l).connections := by
    rw [Sketch.connections_imported, hdrafts, hlinks, List.length_map, reissued, List.map_flatMap]
    refine List.flatMap_congr fun i hi => ?_
    rw [linksTo, List.map_map]
    refine List.map_congr_left fun c hc => ?_
    rcases List.mem_filter.1 hc with ⟨hmem, htarget⟩
    rcases h.exists_source hmem with ⟨source, hsource, hid, -⟩
    rw [Function.comp_apply, Sketch.connection, newConnection, ← hid, getD_place hsource, getD_place hi,
      of_decide_eq_true htarget]
  calc (s.imported []).topology
      = ⟨(s.imported []).topology.instances, (s.imported []).topology.connections⟩ := rfl
    _ = reissued t l := by rw [hinstances, hconnections]

/-! ## Look-ups -/

theorem ids_reissued (t : Topology) (l : List ResourceInstance) :
    (reissued t l).ids = (l.map ResourceInstance.id).map (newId l) := by
  rw [Topology.ids, reissued, List.map_map, List.map_map]
  rfl

theorem newId_injOn {x y : String} (hx : x ∈ l.map ResourceInstance.id) (hxy : newId l x = newId l y) :
    x = y := by
  rcases List.mem_map.1 hx with ⟨i, hi, rfl⟩
  exact newId_inj hi hxy

theorem distinctIds_reissued (h : Listing t l) : (reissued t l).DistinctIds := by
  rw [Topology.DistinctIds, ids_reissued]
  exact List.Nodup.map_on (fun x hx y _ hxy => newId_injOn hx hxy) h.ids

theorem find?_newId (h : Listing t l) (hi : i ∈ l) :
    (reissued t l).find? (newId l i.id) = some (newInstance l i) :=
  (Topology.find?_eq_some_iff h.distinctIds_reissued).2 ⟨List.mem_map_of_mem hi, rfl⟩

/-- What only the instance with one id contributes stands once. -/
theorem flatMap_of_id {α : Type} (h : Listing t l) (hi : i ∈ l) (xs : List α) :
    (l.flatMap fun j => if j.id = i.id then xs else []) = xs := by
  rcases List.append_of_mem hi with ⟨l₁, l₂, rfl⟩
  have hnodup := h.ids
  rw [List.map_append, List.map_cons] at hnodup
  have hempty : ∀ l' : List ResourceInstance, (∀ j ∈ l', j.id ≠ i.id) →
      (l'.flatMap fun j => if j.id = i.id then xs else []) = [] := by
    intro l' hl'
    rw [List.flatMap_eq_nil_iff]
    exact fun j hj => if_neg (hl' j hj)
  have hnone₁ : ∀ j ∈ l₁, j.id ≠ i.id :=
    fun j hj hid => hnodup.not_mem_before (hid ▸ List.mem_map_of_mem hj)
  have hnone₂ : ∀ j ∈ l₂, j.id ≠ i.id :=
    fun j hj hid => hnodup.not_mem_after (hid ▸ List.mem_map_of_mem hj)
  rw [List.flatMap_append, List.flatMap_cons, hempty l₁ hnone₁, hempty l₂ hnone₂, if_pos rfl,
    List.nil_append, List.append_nil]

/-- The connections to an instance keep their order. -/
theorem incoming_newId (h : Listing t l) (hi : i ∈ l) :
    (reissued t l).incoming (newId l i.id) = (t.incoming i.id).map (newConnection l) := by
  -- the connections to one instance are listed together, and those to others are not among them
  have hfilter : ∀ j ∈ l, ((t.incoming j.id).map (newConnection l)).filter
      (fun c => c.target = newId l i.id) =
        if j.id = i.id then (t.incoming i.id).map (newConnection l) else [] := by
    intro j hj
    split
    · rename_i hid
      rw [hid, List.filter_eq_self]
      intro c' hc'
      rcases List.mem_map.1 hc' with ⟨c, hc, rfl⟩
      exact decide_eq_true (congrArg (newId l) (of_decide_eq_true (List.mem_filter.1 hc).2))
    · rename_i hid
      rw [List.filter_eq_nil_iff]
      intro c' hc' hsame
      rcases List.mem_map.1 hc' with ⟨c, hc, rfl⟩
      have htarget : c.target = j.id := of_decide_eq_true (List.mem_filter.1 hc).2
      have hnew : newId l c.target = newId l i.id := of_decide_eq_true hsame
      rw [htarget] at hnew
      exact hid (newId_inj hj hnew)
  rw [Topology.incoming, reissued, List.filter_flatMap, List.flatMap_congr hfilter]
  exact h.flatMap_of_id hi _

/-! ## Order -/

theorem mem_connections_reissued {c' : Connection} (hc' : c' ∈ (reissued t l).connections) :
    ∃ c ∈ t.connections, newConnection l c = c' := by
  rcases List.mem_flatMap.1 hc' with ⟨i, -, hc'⟩
  rcases List.mem_map.1 hc' with ⟨c, hc, rfl⟩
  exact ⟨c, (List.mem_filter.1 hc).1, rfl⟩

theorem newConnection_mem (h : Listing t l) (hc : c ∈ t.connections) :
    newConnection l c ∈ (reissued t l).connections := by
  rcases h.exists_target hc with ⟨target, hmem, hid⟩
  refine List.mem_flatMap.2 ⟨target, hmem, List.mem_map_of_mem (List.mem_filter.2 ⟨hc, ?_⟩)⟩
  exact decide_eq_true hid.symm

theorem ends_mem (h : Listing t l) (hc : c ∈ t.connections) :
    c.source ∈ l.map ResourceInstance.id ∧ c.target ∈ l.map ResourceInstance.id := by
  rcases h.exists_source hc with ⟨source, hsource, hsid, -⟩
  rcases h.exists_target hc with ⟨target, htarget, htid⟩
  exact ⟨List.mem_map.2 ⟨source, hsource, hsid⟩, List.mem_map.2 ⟨target, htarget, htid⟩⟩

theorem links_reissued (h : Listing t l) : (reissued t l).links = (reissued t l).connections := by
  apply Topology.links_eq_connections
  intro c' hc'
  rcases mem_connections_reissued hc' with ⟨c, hc, rfl⟩
  rcases h.ends_mem hc with ⟨hsource, htarget⟩
  rw [ids_reissued]
  exact ⟨List.mem_map_of_mem hsource, List.mem_map_of_mem htarget⟩

/-- A new id leads to another exactly if the ids that they stand for do. -/
theorem leads_reissued (h : Listing t l) (a' b' : String) : Leads (reissued t l).links a' b' ↔
    ∃ a b, Leads t.links a b ∧ newId l a = a' ∧ newId l b = b' := by
  rw [h.links_reissued, h.faultless.links_eq]
  constructor
  · rintro ⟨c', hc', rfl, rfl⟩
    rcases mem_connections_reissued hc' with ⟨c, hc, rfl⟩
    exact ⟨c.source, c.target, ⟨c, hc, rfl, rfl⟩, rfl, rfl⟩
  · rintro ⟨a, b, ⟨c, hc, rfl, rfl⟩, rfl, rfl⟩
    exact ⟨newConnection l c, h.newConnection_mem hc, rfl, rfl⟩

theorem leads_mem (h : Listing t l) {a b : String} (hab : Leads t.links a b) :
    a ∈ l.map ResourceInstance.id ∧ b ∈ l.map ResourceInstance.id := by
  rw [h.faultless.links_eq] at hab
  rcases hab with ⟨c, hc, rfl, rfl⟩
  exact h.ends_mem hc

theorem ordered_links (h : Listing t l) (hd : t.DistinctIds)
    (horder : (l.map ResourceInstance.id).Sublist t.order) :
    Ordered (reissued t l).links (reissued t l).ids := by
  have hdependency := Topology.order_dependencyOrder hd
  have hpart := hdependency.ordered.of_sublist hdependency.nodup horder fun _ _ hab => h.leads_mem hab
  rw [ids_reissued]
  exact hpart.map (fun x hx y _ hxy => newId_injOn hx hxy) (fun _ _ hab => h.leads_mem hab) h.leads_reissued

/-- The targets of a source stand in the order of the instances, as the connections to one target
stand together. -/
theorem pairwise_successors (h : Listing t l) (a : String) :
    (successors (reissued t l).links a).Pairwise fun x y =>
      (reissued t l).ids.idxOf x ≤ (reissued t l).ids.idxOf y := by
  -- connections are listed by their targets, and these in the order of the instances
  have hplaces : l.Pairwise fun i j => place l i.id < place l j.id := by
    have hpairwise := pairwise_idxOf h.ids
    rwa [List.pairwise_map] at hpairwise
  have hplace : ∀ i ∈ l, (reissued t l).ids.idxOf (newId l i.id) = place l i.id := by
    intro i hi
    rw [ids_reissued, idxOf_map (fun x hx y _ hxy => newId_injOn hx hxy) (List.mem_map_of_mem hi), place]
  have htargets : ∀ i ∈ l, ∀ x ∈ (((t.incoming i.id).map (newConnection l)).filter
      fun c => c.source = a).map Connection.target, x = newId l i.id := by
    intro i _ x hx
    rcases List.mem_map.1 hx with ⟨c', hc', rfl⟩
    rcases List.mem_map.1 (List.mem_filter.1 hc').1 with ⟨c, hc, rfl⟩
    exact congrArg (newId l) (of_decide_eq_true (List.mem_filter.1 hc).2)
  rw [successors, h.links_reissued, reissued, List.filter_flatMap, List.map_flatMap, List.pairwise_flatMap]
  constructor
  · intro i hi
    refine List.pairwise_of_forall_mem_list fun x hx y hy => ?_
    rw [htargets i hi x hx, htargets i hi y hy]
  · refine hplaces.imp_of_mem ?_
    intro i j hi hj hij x hx y hy
    have hle : (reissued t l).ids.idxOf x ≤ (reissued t l).ids.idxOf y := by
      rw [htargets i hi x hx, htargets j hj y hy, hplace i hi, hplace j hj]
      exact hij.le
    exact hle

/-- What is read back is in dependency order already. -/
theorem ordered_reissued (h : Listing t l) (hd : t.DistinctIds)
    (horder : (l.map ResourceInstance.id).Sublist t.order) :
    (reissued t l).sequence.ordered = l.map (newInstance l) := by
  have hnew := h.distinctIds_reissued
  rw [Topology.ordered_eq_filterMap_find? hnew,
    Topology.order_eq_ids hnew (h.ordered_links hd horder) h.pairwise_successors,
    Topology.filterMap_find?_ids hnew, reissued]

theorem acyclic_reissued (h : Listing t l) (hd : t.DistinctIds)
    (horder : (l.map ResourceInstance.id).Sublist t.order) : Acyclic (reissued t l).links := by
  intro a hcycle
  have hmem := (reissued t l).links_joins.mem_of_onCycle hcycle
  exact (h.ordered_links hd horder).not_onCycle hmem hcycle

end Listing
end AppHost
end HostTopology
