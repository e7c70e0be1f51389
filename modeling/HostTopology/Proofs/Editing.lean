import HostTopology.Proofs.Drawing
import HostTopology.Proofs.Families
import HostTopology.Proofs.Integrity
import HostTopology.Session

/-!
# Editing — the topologies that steps lead to

Whoever edits a topology adds instances under new ids and connects instances that are there. Then it stays
sound, whatever else is done: changes and removals, imports, a round over the canvas, and reading back what
has been generated. This file defines

* `Edit.Admissible` — the steps that are meant;
* `Topology.IsSound` — different ids, and connections between instances that are there;
* `Reachable` — the topologies that such steps lead to from the empty one;

and proves that a step keeps a topology sound (`IsSound.edit`), that a run of steps leads to reachable
topologies (`Reachable.editAll`), and that these are sound and have no orphans (`reachable_sound`).
-/

namespace HostTopology

variable {r : Registry} {t u : Topology} {i : ResourceInstance} {c : Connection}

/-! ## Sound topologies -/

structure Topology.IsSound (t : Topology) : Prop where
  distinctIds : t.DistinctIds
  closed : t.Closed

theorem Topology.closed_iff : t.Closed ↔ ∀ e ∈ t.ends, e.1 ∈ t.ids ∧ e.2 ∈ t.ids := by
  rw [Topology.ends, List.forall_mem_map, Topology.Closed]

namespace Topology

theorem missingOf_eq_ok_iff {id : String} {x : Option Topology} : missingOf id x = .ok u ↔ x = some u := by
  cases x <;> simp [missingOf]

namespace IsSound

theorem empty : Topology.empty.IsSound where
  distinctIds := List.nodup_nil
  closed _ hc := absurd hc List.not_mem_nil

/-- Instances may change if their ids stay, and connections may go. -/
theorem of_ends (h : t.IsSound) (hids : u.ids = t.ids) (hends : u.ends ⊆ t.ends) : u.IsSound where
  distinctIds := by rw [DistinctIds, hids]; exact h.distinctIds
  closed := closed_iff.2 fun e he => hids ▸ closed_iff.1 h.closed e (hends he)

/-! ## Changes of the graph -/

theorem addInstance (h : t.IsSound) (hnew : i.id ∉ t.ids) : (t.addInstance i).IsSound := by
  have hids : (t.addInstance i).ids = t.ids ++ [i.id] := List.map_append
  refine ⟨?_, fun c hc => ?_⟩
  · rw [DistinctIds, hids]
    exact h.distinctIds.append (List.nodup_singleton _) (List.disjoint_singleton.2 hnew)
  · rw [hids]
    exact ⟨List.mem_append_left _ (h.closed c hc).1, List.mem_append_left _ (h.closed c hc).2⟩

theorem replaceInstance? (h : t.IsSound) (hu : t.replaceInstance? i = some u) : u.IsSound := by
  rw [Topology.replaceInstance?] at hu
  split at hu
  · obtain rfl := Option.some.inj hu
    refine h.of_ends ?_ fun _ he => he
    rw [ids, ids, List.map_map]
    refine List.map_congr_left fun old _ => ?_
    rw [Function.comp_apply]
    split
    · exact (‹old.id = i.id›).symm
    · rfl
  · cases hu

theorem removeInstance (h : t.IsSound) (id : String) : (t.removeInstance id).IsSound := by
  have hids : (t.removeInstance id).ids = t.ids.filter fun other => other ≠ id := by
    rw [ids, ids, List.filter_map]
    rfl
  refine ⟨?_, fun c hc => ?_⟩
  · rw [DistinctIds, hids]
    exact h.distinctIds.filter _
  · rcases List.mem_filter.1 hc with ⟨hmem, hkept⟩
    rcases Bool.and_eq_true_iff.1 hkept with ⟨hsource, htarget⟩
    rw [hids]
    exact ⟨List.mem_filter.2 ⟨(h.closed c hmem).1, hsource⟩, List.mem_filter.2 ⟨(h.closed c hmem).2, htarget⟩⟩

theorem connect (h : t.IsSound) {source target : String} (hsource : source ∈ t.ids) (htarget : target ∈ t.ids)
    (kind : ConnectionKind) (id : String) : (t.connect source target kind id).IsSound := by
  refine ⟨h.distinctIds, fun c hc => ?_⟩
  rcases List.mem_append.1 hc with hc | hc
  · exact h.closed c hc
  · obtain rfl := List.mem_singleton.1 hc
    exact ⟨hsource, htarget⟩

theorem disconnect (h : t.IsSound) (id : String) : (t.disconnect id).IsSound :=
  h.of_ends rfl (List.map_subset _ (List.filter_subset_self _))

/-- An import brings ids that are not there yet, and connections between its own instances. -/
theorem append (h : t.IsSound) (hu : u.IsImport t.ids) : (t.append u).IsSound := by
  have hids : (t.append u).ids = t.ids ++ u.ids := List.map_append
  refine ⟨?_, fun c hc => ?_⟩
  · rw [DistinctIds, hids]
    exact h.distinctIds.append hu.distinctIds fun id hid hid' => hu.unreserved id hid' hid
  · rw [hids]
    rcases List.mem_append.1 hc with hc | hc
    · exact ⟨List.mem_append_left _ (h.closed c hc).1, List.mem_append_left _ (h.closed c hc).2⟩
    · exact ⟨List.mem_append_right _ (hu.closed c hc).1, List.mem_append_right _ (hu.closed c hc).2⟩

theorem change (h : t.IsSound) {id : String} {change : Change} (hu : t.change id change = .ok u) : u.IsSound := by
  rw [Topology.change] at hu
  split at hu
  · cases hu
  · rcases Except.bind_eq_ok_iff.1 hu with ⟨i, -, hreplaced⟩
    exact h.replaceInstance? (missingOf_eq_ok_iff.1 hreplaced)

end IsSound
end Topology

/-! ## The canvas -/

namespace Topology

theorem ids_redrawn (t : Topology) : t.redrawn.ids = t.ids := by
  rw [ids, ids, redrawn, List.map_map]
  rfl

theorem ends_redrawn (t : Topology) : t.redrawn.ends = t.ends := by
  rw [ends, ends, redrawn, List.map_map]
  rfl

end Topology

/-! ## Steps -/

/-- Instances are added under new ids, and instances that are there are connected. What replaces the
whole topology by another one is not a step of editing it. -/
def Edit.Admissible (t : Topology) : Edit → Prop
  | .add i => i.id ∉ t.ids
  | .connect source target _ _ => source ∈ t.ids ∧ target ∈ t.ids
  | .load _ | .template _ | .reload => False
  | _ => True

instance (t : Topology) : (e : Edit) → Decidable (e.Admissible t)
  | .add i => inferInstanceAs (Decidable (i.id ∉ t.ids))
  | .connect source target _ _ => inferInstanceAs (Decidable (source ∈ t.ids ∧ target ∈ t.ids))
  | .load _ | .template _ | .reload => .isFalse id
  | .replace _ | .update .. | .remove _ | .disconnect _ | .append .. | .redraw | .recompile _ => .isTrue trivial

theorem Topology.IsImport.isSound {reserved : List String} (h : t.IsImport reserved) : t.IsSound :=
  ⟨h.distinctIds, h.closed⟩

theorem Topology.IsSound.edit {e : Edit} {s : Imported} (h : t.IsSound) (hadmissible : e.Admissible t)
    (hs : t.edit r e = .ok s) : s.topology.IsSound := by
  cases e with
  | add i =>
    obtain rfl := Except.ok.inj hs
    exact h.addInstance hadmissible
  | replace i =>
    rcases Except.bind_eq_ok_iff.1 hs with ⟨u, hu, hs⟩
    obtain rfl := Except.ok.inj hs
    exact h.replaceInstance? (missingOf_eq_ok_iff.1 hu)
  | update id change =>
    rcases Except.bind_eq_ok_iff.1 hs with ⟨u, hu, hs⟩
    obtain rfl := Except.ok.inj hs
    exact h.change hu
  | remove id =>
    obtain rfl := Except.ok.inj hs
    exact h.removeInstance id
  | connect source target kind id =>
    obtain rfl := Except.ok.inj hs
    exact h.connect hadmissible.1 hadmissible.2 kind id
  | disconnect id =>
    obtain rfl := Except.ok.inj hs
    exact h.disconnect id
  | append format fileName text =>
    rcases Except.bind_eq_ok_iff.1 hs with ⟨found, hfound, hs⟩
    obtain rfl := Except.ok.inj hs
    exact h.append (isImport_read (Except.mapError_eq_ok_iff.1 hfound))
  | load | template | reload => exact hadmissible.elim
  | redraw =>
    -- names and configurations may come back changed, ids and ends do not
    rcases Except.bind_eq_ok_iff.1 hs with ⟨u, hu, hs⟩
    obtain rfl := Except.ok.inj hs
    obtain rfl := Except.ok.inj ((Topology.ofCanvas_canvas r t).symm.trans (Except.mapError_eq_ok_iff.1 hu))
    exact h.of_ends t.ids_redrawn fun _ he => t.ends_redrawn ▸ he
  | recompile options =>
    rcases Except.bind_eq_ok_iff.1 hs with ⟨artifacts, -, hread⟩
    -- whatever has been generated, a placeholder or not, is read as an import
    exact (isImport_read (Except.mapError_eq_ok_iff.1 hread)).isSound

/-! ## Runs -/

/-- The topologies that admissible steps lead to, whatever types are known at each of them. A step that
fails leads nowhere else. -/
inductive Reachable : Topology → Prop
  | empty : Reachable .empty
  | step {t : Topology} {e : Edit} (r : Registry) : Reachable t → e.Admissible t → Reachable (t.editAll r [e])

/-- A run of steps, each of which is admissible where it is taken. -/
theorem Reachable.editAll (h : Reachable t) {edits : List Edit}
    (hadmissible : ∀ n (hn : n < edits.length), edits[n].Admissible (t.editAll r (edits.take n))) :
    Reachable (t.editAll r edits) := by
  induction edits generalizing t with
  | nil => exact h
  | cons e edits ih =>
    have hfirst : e.Admissible t := hadmissible 0 (Nat.succ_pos _)
    refine ih (h.step r hfirst) fun n hn => ?_
    exact hadmissible (n + 1) (Nat.succ_lt_succ hn)

theorem Reachable.isSound (h : Reachable t) : t.IsSound := by
  induction h with
  | empty => exact .empty
  | @step t e r _ hadmissible ih =>
    rw [Topology.editAll, List.foldl_cons, List.foldl_nil]
    -- a step that fails leaves the topology as it was
    split
    · exact ih.edit hadmissible ‹_›
    · exact ih

/-- Editing keeps the graph sound, so that validation finds no connection without its instances. -/
theorem reachable_sound (h : Reachable t) :
    t.DistinctIds ∧ t.Closed ∧
    ∀ (r : Registry) report, t.validate r = .ok report → ∀ edge, .orphan edge ∉ report.findings := by
  refine ⟨h.isSound.distinctIds, h.isSound.closed, fun r report hreport edge hmem => ?_⟩
  rcases (Validation.orphan_mem_findings_iff hreport).1 hmem with ⟨c, hc, -, hmissing⟩
  rcases hmissing with hsource | htarget
  · exact hsource (h.isSound.closed c hc).1
  · exact htarget (h.isSound.closed c hc).2

/-- An import next to what is there, a round over the canvas, a step that fails, and a removal. -/
def drafting : List Edit := [
  .add ⟨"cache", "redis", "cache", none, .empty⟩,
  .append .dockerfile "api.Dockerfile" "FROM alpine\nEXPOSE 80\n",
  .connect "cache" "imported_1000" .waitFor "",
  .redraw,
  .add ⟨"db", "postgres", "pg", some "orders", .empty⟩,
  .connect "db" "cache" .reference "needless",
  .update "ghost" (.rename "x"),
  .remove "db"]

def drafted : Topology where
  instances := [⟨"cache", "redis", "cache", none, .empty⟩,
    ⟨"imported_1000", "container", "api", none, ⟨[], [⟨"80", some "80"⟩], [], none, none⟩⟩]
  connections := [.make "" "cache" "imported_1000" .waitFor]

theorem drafted_sound :
    Topology.empty.editAll .standard drafting = drafted ∧ Reachable drafted ∧ drafted.DistinctIds ∧ drafted.Closed ∧
    ∀ (r : Registry) report, drafted.validate r = .ok report → ∀ edge, .orphan edge ∉ report.findings := by
  have hrun : Topology.empty.editAll .standard drafting = drafted := by decide +kernel
  have hadmissible : ∀ n (hn : n < drafting.length),
      drafting[n].Admissible (Topology.empty.editAll .standard (drafting.take n)) := by decide +kernel
  have hreachable : Reachable drafted := hrun ▸ Reachable.empty.editAll hadmissible
  exact ⟨hrun, hreachable, reachable_sound hreachable⟩

end HostTopology
