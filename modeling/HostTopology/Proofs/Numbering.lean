import HostTopology.Proofs.Relabeling
import HostTopology.Proofs.Results
import HostTopology.Proofs.Sketches
import Mathlib.Data.List.GetD
import Mathlib.Data.Set.Function

/-!
# Numbering — the ids that an import gives out

An import numbers its instances and leaves out the numbers of ids that are reserved.

* `freshNumbers` — the numbers that are given out: as many as are wanted, in order, and of no reserved id;
* `counterpart` — the id at the same position in another list of ids;
* `Topology.renumber` — a topology under other ids, where connections have default ids;
* `Sketch.imported_renumber` — one sketch with the ids of two imports.
-/

namespace HostTopology

variable {reserved ids ids' : List String} {count n : Nat}

/-! ## Numbers -/

/-- The digits of a number keep apart what is not a digit. -/
theorem not_mem_repr {c : Char} (h : c.isDigit = false) (n : Nat) : c ∉ n.repr.toList := by
  intro hc
  rw [Nat.toList_repr] at hc
  exact Bool.eq_false_iff.1 h (Nat.isDigit_of_mem_toDigits (by decide) (by decide) hc)

theorem importedId_ne_empty (n : Nat) : importedId n ≠ "" := by
  intro h
  have htext := congrArg String.toList h
  rw [importedId, String.toList_append] at htext
  cases htext

/-- The numbers of the ids that are given out. -/
def freshNumbers (reserved : List String) (count : Nat) : List Nat :=
  (((List.range (count + reserved.length)).map (firstImportedId + ·)).filter
    fun n => !reserved.contains (importedId n)).take count

theorem freshIds_eq (reserved : List String) (count : Nat) :
    freshIds reserved count = (freshNumbers reserved count).map importedId := by
  have hcandidates : ((List.range (count + reserved.length)).map fun n => importedId (firstImportedId + n)) =
      ((List.range (count + reserved.length)).map (firstImportedId + ·)).map importedId := by
    rw [List.map_map]
    rfl
  rw [freshIds, freshNumbers, hcandidates, List.map_take, List.filter_map]
  rfl

theorem pairwise_freshNumbers (reserved : List String) (count : Nat) :
    (freshNumbers reserved count).Pairwise (· < ·) := by
  have hcandidates : ((List.range (count + reserved.length)).map (firstImportedId + ·)).Pairwise (· < ·) :=
    List.pairwise_lt_range.map _ fun _ _ h => Nat.add_lt_add_left h firstImportedId
  exact (hcandidates.filter _).take

theorem of_mem_freshNumbers (h : n ∈ freshNumbers reserved count) :
    firstImportedId ≤ n ∧ importedId n ∉ reserved := by
  rcases List.mem_filter.1 (List.mem_of_mem_take h) with ⟨hcandidate, hfree⟩
  rcases List.mem_map.1 hcandidate with ⟨m, -, rfl⟩
  refine ⟨Nat.le_add_right _ _, fun hmem => ?_⟩
  rw [List.contains_iff_mem.2 hmem] at hfree
  cases hfree

/-- No more candidates are reserved than there are reserved ids. -/
theorem length_freshNumbers (reserved : List String) (count : Nat) :
    (freshNumbers reserved count).length = count := by
  rw [freshNumbers, List.length_take]
  let taken (n : Nat) : Bool := reserved.contains (importedId n)
  generalize hcandidates : (List.range (count + reserved.length)).map (firstImportedId + ·) = candidates
  have hdistinct : ((candidates.filter taken).map importedId).Nodup := by
    have hnumbers : candidates.Nodup := hcandidates ▸ List.nodup_range.map fun _ _ h => Nat.add_left_cancel h
    exact (hnumbers.filter _).map fun _ _ => importedId_inj
  have hreserved : (candidates.filter taken).map importedId ⊆ reserved := by
    intro id hid
    rcases List.mem_map.1 hid with ⟨n, hn, rfl⟩
    exact List.contains_iff_mem.1 (List.mem_filter.1 hn).2
  -- different candidates that are reserved are different reserved ids
  have hfew := (List.subperm_of_subset hdistinct hreserved).length_le
  rw [List.length_map] at hfew
  have hsum : candidates.length = (candidates.filter taken).length + (candidates.filter fun n => !taken n).length :=
    List.length_eq_length_filter_add taken
  have hlength : candidates.length = count + reserved.length := by
    rw [← hcandidates, List.length_map, List.length_range]
  refine Nat.min_eq_left ?_
  change count ≤ (candidates.filter fun n => !taken n).length
  omega

theorem length_freshIds (reserved : List String) (count : Nat) : (freshIds reserved count).length = count := by
  rw [freshIds_eq, List.length_map, length_freshNumbers]

theorem nodup_freshIds (reserved : List String) (count : Nat) : (freshIds reserved count).Nodup := by
  rw [freshIds_eq]
  exact (pairwise_freshNumbers reserved count).nodup.map fun _ _ => importedId_inj

theorem empty_notMem_freshIds (reserved : List String) (count : Nat) : "" ∉ freshIds reserved count := by
  rw [freshIds_eq]
  intro hmem
  rcases List.mem_map.1 hmem with ⟨n, -, hn⟩
  exact importedId_ne_empty n hn

theorem notMem_reserved_of_mem_freshIds {id : String} (h : id ∈ freshIds reserved count) : id ∉ reserved := by
  rw [freshIds_eq] at h
  rcases List.mem_map.1 h with ⟨n, hn, rfl⟩
  exact (of_mem_freshNumbers hn).2

namespace Sketch

variable {s : Sketch}

theorem ids_imported (s : Sketch) (reserved : List String) :
    (s.imported reserved).topology.ids = freshIds reserved s.drafts.length := by
  have hlength := length_freshIds reserved s.drafts.length
  refine List.ext_getElem (by simp [Topology.ids, imported, hlength]) fun n hn hn' => ?_
  simp [Topology.ids, imported, Draft.withId]

theorem distinctIds_imported (s : Sketch) (reserved : List String) : (s.imported reserved).topology.DistinctIds := by
  rw [Topology.DistinctIds, ids_imported]
  exact nodup_freshIds _ _

end Sketch

/-! ## Positions -/

/-- The id at the same position in another list. What is no id of a list stands for nothing in the other. -/
def counterpart (ids ids' : List String) (id : String) : String :=
  ids'.getD (ids.idxOf id) ""

theorem counterpart_empty (hempty : "" ∉ ids) (hlength : ids.length = ids'.length) :
    counterpart ids ids' "" = "" := by
  rw [counterpart, List.idxOf_eq_length_iff.2 hempty, List.getD_eq_default _ _ hlength.ge]

theorem map_counterpart (hdistinct : ids.Nodup) (hlength : ids.length = ids'.length) :
    ids.map (counterpart ids ids') = ids' := by
  refine List.ext_getElem (by rw [List.length_map, hlength]) fun n hn hn' => ?_
  rw [List.length_map] at hn
  rw [List.getElem_map, counterpart, hdistinct.idxOf_getElem n hn, List.getD_eq_getElem _ _ hn']

/-! ## Other reserved ids -/

/-- A topology under other ids. The ids of connections are those that their ends give. -/
def Topology.renumber (rename : String → String) (t : Topology) : Topology where
  instances := t.instances.map (ResourceInstance.relabel rename)
  connections := t.connections.map fun c => .make "" (rename c.source) (rename c.target) c.kind

/-- The ids of one list go to those of another, each to the one at its position, and different ones to
different ones. -/
structure KeepsOrder (rename : String → String) (ids ids' : List String) : Prop where
  bijective : Set.BijOn rename {id | id ∈ ids} {id | id ∈ ids'}
  map_eq : ids.map rename = ids'
  distinct : ids.Nodup
  distinct' : ids'.Nodup

theorem keepsOrder_counterpart (hdistinct : ids.Nodup) (hdistinct' : ids'.Nodup)
    (hlength : ids.length = ids'.length) : KeepsOrder (counterpart ids ids') ids ids' := by
  have hmap := map_counterpart hdistinct hlength
  refine ⟨⟨fun id hid => ?_, fun a ha b hb hab => ?_, fun id hid => ?_⟩, hmap, hdistinct, hdistinct'⟩
  · have hmem := List.mem_map_of_mem (f := counterpart ids ids') hid
    rwa [hmap] at hmem
  · rw [← hmap] at hdistinct'
    exact List.inj_on_of_nodup_map hdistinct' ha hb hab
  · have hid' : id ∈ ids.map (counterpart ids ids') := hmap.symm ▸ hid
    exact List.mem_map.1 hid'

theorem Sketch.connection_map {rename : String → String} (hempty : rename "" = "") (ids : List String)
    (link : Nat × Nat) : Sketch.connection (ids.map rename) link =
      .make "" (rename (Sketch.connection ids link).source) (rename (Sketch.connection ids link).target)
        (Sketch.connection ids link).kind := by
  have hend : ∀ n, (ids.map rename).getD n "" = rename (ids.getD n "") := by
    intro n
    conv_lhs => rw [← hempty]
    exact List.getD_map _ _ _
  rw [Sketch.connection, hend, hend]
  rfl

theorem Sketch.imported_renumber (s : Sketch) (reserved reserved' : List String) :
    (s.imported reserved').topology = (s.imported reserved).topology.renumber
      (counterpart (freshIds reserved s.drafts.length) (freshIds reserved' s.drafts.length)) := by
  have hlength : (freshIds reserved s.drafts.length).length = (freshIds reserved' s.drafts.length).length := by
    rw [length_freshIds, length_freshIds]
  have hempty := counterpart_empty (empty_notMem_freshIds reserved s.drafts.length) hlength
  have hmap := map_counterpart (nodup_freshIds reserved s.drafts.length) hlength
  generalize counterpart (freshIds reserved s.drafts.length) (freshIds reserved' s.drafts.length) = rename at *
  have hinstances : s.drafts.zipWith Draft.withId (freshIds reserved' s.drafts.length) =
      (s.drafts.zipWith Draft.withId (freshIds reserved s.drafts.length)).map (ResourceInstance.relabel rename) := by
    rw [← hmap, List.zipWith_map_right, List.map_zipWith]
    rfl
  have hconnections : s.links.map (Sketch.connection (freshIds reserved' s.drafts.length)) =
      (s.links.map (Sketch.connection (freshIds reserved s.drafts.length))).map fun c =>
        .make "" (rename c.source) (rename c.target) c.kind := by
    rw [← hmap, List.map_map]
    exact List.map_congr_left fun link _ => Sketch.connection_map hempty _ link
  rw [imported, imported, Topology.renumber, hinstances, hconnections]

end HostTopology
