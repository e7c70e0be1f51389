import HostTopology.Sequence
import Mathlib.Data.List.Perm.Subperm
import Mathlib.Logic.Relation
import Mathlib.Order.Preorder.Finite

/-!
# Links — the relation that connections span

Sequencing and the search for cycles both walk along links, each with state of its own. What they
compute is stated in terms of one relation. This file defines

* `Leads links a b` — some link has source `a` and target `b`;
* `OnCycle links a` — a walk along links leads from `a` back to `a`;
* `Acyclic links` — no walk does;
* `avoiding left links` — the links that keep clear of some ids.

The main fact is `exists_source_free`: among the ids that are left over, one has no source that is
left over too, unless one of them lies on a cycle.
-/

namespace List

variable {α : Type} {before after : List α} {a : α}

/-- What stands in the middle of a list without repetitions does not stand before. -/
theorem Nodup.not_mem_before (h : (before ++ a :: after).Nodup) : a ∉ before := by
  rw [nodup_middle, nodup_cons] at h
  exact fun hmem => h.1 (mem_append_left after hmem)

theorem Nodup.not_mem_after (h : (before ++ a :: after).Nodup) : a ∉ after := by
  rw [nodup_middle, nodup_cons] at h
  exact fun hmem => h.1 (mem_append_right before hmem)

/-- Where keys differ, what is found under a key is the member that has it. -/
theorem find?_key_eq_some_iff {β : Type} [DecidableEq β] {key : α → β} {l : List α} (h : (l.map key).Nodup)
    {k : β} : l.find? (fun b => key b = k) = some a ↔ a ∈ l ∧ key a = k := by
  constructor
  · intro hfind
    exact ⟨mem_of_find?_eq_some hfind, by simpa using find?_some hfind⟩
  · rintro ⟨ha, rfl⟩
    cases hfind : l.find? fun b => key b = key a with
    | none =>
      have hnone := find?_eq_none.1 hfind a ha
      simp at hnone
    | some b =>
      have hkey : key b = key a := by simpa using find?_some hfind
      rw [inj_on_of_nodup_map h (mem_of_find?_eq_some hfind) ha hkey]

variable [BEq α] [LawfulBEq α]

theorem Nodup.idxOf_middle (h : (before ++ a :: after).Nodup) :
    (before ++ a :: after).idxOf a = before.length := by
  rw [idxOf_append_of_notMem h.not_mem_before, idxOf_cons_self, Nat.add_zero]

theorem nodup_eraseDups (l : List α) : l.eraseDups.Nodup := by
  induction hn : l.length using Nat.strong_induction_on generalizing l with
  | _ n ih =>
    cases l with
    | nil => simp
    | cons a l =>
      rw [List.eraseDups_cons, List.nodup_cons]
      refine ⟨?_, ?_⟩
      · simp [List.mem_eraseDups]
      · refine ih _ ?_ _ rfl
        have hle := List.length_filter_le (fun b => !b == a) l
        simp only [List.length_cons] at hn
        omega

end List

namespace HostTopology

/-! ## The relation -/

def Leads (links : List Connection) (a b : String) : Prop :=
  ∃ c ∈ links, c.source = a ∧ c.target = b

instance (links : List Connection) (a b : String) : Decidable (Leads links a b) :=
  inferInstanceAs (Decidable (∃ c ∈ links, c.source = a ∧ c.target = b))

def OnCycle (links : List Connection) (a : String) : Prop :=
  Relation.TransGen (Leads links) a a

def Acyclic (links : List Connection) : Prop :=
  ∀ a, ¬ OnCycle links a

/-- Both ends of every link are among the ids. -/
def Joins (links : List Connection) (ids : List String) : Prop :=
  ∀ c ∈ links, c.source ∈ ids ∧ c.target ∈ ids

variable {links : List Connection} {ids : List String} {a b : String}

theorem Joins.source_mem (hj : Joins links ids) (h : Leads links a b) : a ∈ ids := by
  rcases h with ⟨c, hc, rfl, rfl⟩
  exact (hj c hc).1

theorem Joins.target_mem (hj : Joins links ids) (h : Leads links a b) : b ∈ ids := by
  rcases h with ⟨c, hc, rfl, rfl⟩
  exact (hj c hc).2

theorem Joins.mem_of_transGen (hj : Joins links ids) (h : Relation.TransGen (Leads links) a b) :
    a ∈ ids ∧ b ∈ ids := by
  induction h with
  | single h => exact ⟨hj.source_mem h, hj.target_mem h⟩
  | tail _ h ih => exact ⟨ih.1, hj.target_mem h⟩

theorem Joins.mem_of_onCycle (hj : Joins links ids) (h : OnCycle links a) : a ∈ ids :=
  (hj.mem_of_transGen h).1

theorem acyclic_nil : Acyclic [] := by
  intro a h
  have hjoins : Joins [] [] := fun c hc => absurd hc List.not_mem_nil
  exact List.not_mem_nil (hjoins.mem_of_onCycle h)

/-- Walking against the links from an id that is left over ends, if none of these lies on a cycle: only
finitely many ids are left over. -/
theorem exists_source_free {Left : String → Prop} (hids : ∀ x, Left x → x ∈ ids) (hne : ∃ x, Left x)
    (hcycle : ∀ x, Left x → ¬ OnCycle links x) : ∃ x, Left x ∧ ∀ a, Left a → ¬ Leads links a x := by
  let Earlier (x y : {x // Left x}) : Prop := Relation.TransGen (Leads links) x y
  have : Finite {x // Left x} := (List.finite_toSet ids).subset hids
  have : IsTrans {x // Left x} Earlier := ⟨fun _ _ _ => Relation.TransGen.trans⟩
  have : Std.Irrefl Earlier := ⟨fun x => hcycle x x.2⟩
  have hwf : WellFounded Earlier := Finite.wellFounded_of_trans_of_irrefl Earlier
  rcases hne with ⟨x, hx⟩
  rcases hwf.has_min Set.univ ⟨⟨x, hx⟩, trivial⟩ with ⟨m, -, hmin⟩
  refine ⟨m, m.2, ?_⟩
  intro a ha hlead
  exact hmin ⟨a, ha⟩ trivial (Relation.TransGen.single hlead)

theorem Sequence.mem_successors : b ∈ Sequence.successors links a ↔ Leads links a b := by
  simp [Sequence.successors, Leads, and_assoc]

/-! ## Links that keep clear of some ids -/

def avoiding (left : List String) (links : List Connection) : List Connection :=
  links.filter fun c => c.source ∉ left ∧ c.target ∉ left

theorem leads_avoiding_iff {left : List String} :
    Leads (avoiding left links) a b ↔ Leads links a b ∧ a ∉ left ∧ b ∉ left := by
  simp only [Leads, avoiding, List.mem_filter, decide_eq_true_eq]
  constructor
  · rintro ⟨c, ⟨hc, hsource, htarget⟩, rfl, rfl⟩
    exact ⟨⟨c, hc, rfl, rfl⟩, hsource, htarget⟩
  · rintro ⟨⟨c, hc, rfl, rfl⟩, hsource, htarget⟩
    exact ⟨c, ⟨hc, hsource, htarget⟩, rfl, rfl⟩

theorem avoiding_le {left : List String} : Leads (avoiding left links) ≤ Leads links :=
  fun _ _ hlead => (leads_avoiding_iff.1 hlead).1

theorem avoiding_nil (links : List Connection) : avoiding [] links = links := by
  simp [avoiding]

theorem avoiding_congr {left right : List String} (h : ∀ x, x ∈ left ↔ x ∈ right) :
    avoiding left links = avoiding right links := by
  simp only [avoiding, h]

theorem avoiding_append (left right : List String) (links : List Connection) :
    avoiding (left ++ right) links = avoiding right (avoiding left links) := by
  rw [avoiding, avoiding, avoiding, List.filter_filter]
  refine List.filter_congr fun c _ => ?_
  rw [← Bool.decide_and, decide_eq_decide]
  simp only [List.mem_append, not_or]
  tauto

theorem OnCycle.of_avoiding {left : List String} (h : OnCycle (avoiding left links) a) : OnCycle links a :=
  Relation.TransGen.mono avoiding_le a a h

/-! ## Links of a topology -/

namespace Topology

variable {t : Topology} {c : Connection} {id : String}

instance : Decidable t.DistinctIds :=
  inferInstanceAs (Decidable t.ids.Nodup)

theorem hasId_iff : t.hasId id = true ↔ id ∈ t.ids := by
  simp [hasId, ids]

theorem mem_links : c ∈ t.links ↔ c ∈ t.connections ∧ c.source ∈ t.ids ∧ c.target ∈ t.ids := by
  simp [links, hasId_iff]

theorem links_joins (t : Topology) : Joins t.links t.ids := by
  intro c hc
  exact (mem_links.1 hc).2

theorem mem_ids_of_mem {i : ResourceInstance} (hi : i ∈ t.instances) : i.id ∈ t.ids :=
  List.mem_map_of_mem hi

theorem links_eq_connections (h : t.Closed) : t.links = t.connections := by
  rw [links, List.filter_eq_self]
  intro c hc
  simp [hasId_iff, h c hc]

/-! ## Look-ups -/

theorem find?_eq_some_iff (hd : t.DistinctIds) {i : ResourceInstance} :
    t.find? id = some i ↔ i ∈ t.instances ∧ i.id = id :=
  List.find?_key_eq_some_iff hd

theorem findLast?_eq_find? (hd : t.DistinctIds) : t.findLast? id = t.find? id := by
  have hreverse : (t.instances.reverse.map ResourceInstance.id).Nodup := by
    rw [List.map_reverse, List.nodup_reverse]
    exact hd
  refine Option.ext fun i => ?_
  rw [find?_eq_some_iff hd, findLast?, List.find?_key_eq_some_iff hreverse, List.mem_reverse]

theorem find?_isSome_iff : (t.find? id).isSome ↔ id ∈ t.ids := by
  simp [find?, ids]

end Topology
end HostTopology
