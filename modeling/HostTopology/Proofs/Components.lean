import HostTopology.Proofs.Agreement

/-!
# Components — which cycles are reported

A search ends with the first cycle that it closes, and the nodes on its stack are not fresh any more. So no later
search enters the ids through which it has come to that cycle (`Topology.approaches`), and a cycle that needs one
of them is not found.

* `SameComponent` — links lead from each of two ids to the other;
* `IsReported` — some finding is about a cycle in the component of an id;
* `OnCycle.avoids_or_meets` — a cycle keeps clear of some ids, or one of them lies in its component;
* `component_reported_iff` — the findings are about different ids, and the components with a finding are those
  with a cycle that keeps clear of all approaches. A component is one of them if no other cycle can be reached
  from it.
-/

namespace HostTopology

open Validation HostTopology.Cycle

variable {links : List Connection} {left cycle : List String} {a b x y : String} {found : List Finding}
  {r : Registry} {t : Topology}

/-! ## Components -/

/-- The ids lie in one strongly connected component of the links. -/
def SameComponent (links : List Connection) (x y : String) : Prop :=
  Relation.ReflTransGen (Leads links) x y ∧ Relation.ReflTransGen (Leads links) y x

theorem SameComponent.trans {z : String} (hxy : SameComponent links x y) (hyz : SameComponent links y z) :
    SameComponent links x z :=
  ⟨hxy.1.trans hyz.1, hyz.2.trans hxy.2⟩

theorem SameComponent.of_avoiding (h : SameComponent (avoiding left links) x y) : SameComponent links x y :=
  ⟨Relation.ReflTransGen.mono avoiding_le x y h.1, Relation.ReflTransGen.mono avoiding_le y x h.2⟩

theorem Cycle.IsCycle.sameComponent (h : IsCycle links cycle) (hx : x ∈ cycle) (hy : y ∈ cycle) :
    SameComponent links x y :=
  ⟨(h.transGen hx hy).to_reflTransGen, (h.transGen hy hx).to_reflTransGen⟩

theorem Cycle.IsCycle.avoiding (h : IsCycle links cycle) (hclear : ∀ x ∈ cycle, x ∉ left) :
    IsCycle (avoiding left links) cycle where
  ne_nil := h.ne_nil
  nodup := h.nodup
  chain := by
    refine h.chain.imp_of_mem_imp fun x y hx hy hlead => ?_
    exact leads_avoiding_iff.2 ⟨hlead, hclear x hx, hclear y hy⟩
  closes := by
    intro x hx y hy
    exact leads_avoiding_iff.2
      ⟨h.closes x hx y hy, hclear x (List.mem_of_getLast? hx), hclear y (List.mem_of_head? hy)⟩

/-! ## Walks that keep clear of some ids -/

theorem transGen_avoids_or_meets (h : Relation.TransGen (Leads links) a b) :
    Relation.TransGen (Leads (avoiding left links)) a b ∨
      ∃ z ∈ left, Relation.ReflTransGen (Leads links) a z ∧ Relation.ReflTransGen (Leads links) z b := by
  induction h with
  | @single b hlead =>
    -- either end of the link may be the one that is met
    by_cases ha : a ∈ left
    · exact Or.inr ⟨a, ha, .refl, .single hlead⟩
    by_cases hb : b ∈ left
    · exact Or.inr ⟨b, hb, .single hlead, .refl⟩
    exact Or.inl (.single (leads_avoiding_iff.2 ⟨hlead, ha, hb⟩))
  | @tail b c hab hlead ih =>
    rcases ih with hclear | ⟨z, hz, haz, hzb⟩
    · by_cases hc : c ∈ left
      · exact Or.inr ⟨c, hc, hab.to_reflTransGen.tail hlead, .refl⟩
      · have hb : b ∉ left := by
          rcases Relation.TransGen.tail'_iff.1 hclear with ⟨_, -, hlast⟩
          exact (leads_avoiding_iff.1 hlast).2.2
        exact Or.inl (hclear.tail (leads_avoiding_iff.2 ⟨hlead, hb, hc⟩))
    · exact Or.inr ⟨z, hz, haz, hzb.tail hlead⟩

theorem OnCycle.avoids_or_meets (h : OnCycle links x) (left : List String) :
    OnCycle (avoiding left links) x ∨ ∃ z ∈ left, SameComponent links x z :=
  transGen_avoids_or_meets h

/-- Ids that no link leads out of are not left. -/
theorem mem_of_reaches {ids : List String} (hclosed : ∀ c ∈ links, c.source ∈ ids → c.target ∈ ids) (hx : x ∈ ids)
    (hxy : Relation.ReflTransGen (Leads links) x y) : y ∈ ids := by
  induction hxy with
  | refl => exact hx
  | tail _ hlead ih =>
    rcases hlead with ⟨c, hc, rfl, rfl⟩
    exact hclosed c hc ih

/-! ## Components that a cycle is reported of -/

/-- One of the findings is about a cycle, and all ids along it lie in the component of `x`. -/
def IsReported (links : List Connection) (found : List Finding) (x : String) : Prop :=
  ∃ f ∈ found, f.isCircular = true ∧ ∀ id ∈ f.related, SameComponent links x id

theorem isReported_iff : IsReported t.links (checkCycles r t) x ↔
    ∃ cycle ∈ t.cycles, ∀ id ∈ cycle, SameComponent t.links x id := by
  rw [← map_related_checkCycles (r := r)]
  simp only [List.mem_map, exists_exists_and_eq_and]
  constructor
  · rintro ⟨f, hf, -, hrelated⟩
    exact ⟨f, hf, hrelated⟩
  · rintro ⟨f, hf, hrelated⟩
    exact ⟨f, hf, isCircular_of_mem_checkCycles hf, hrelated⟩

/-- A cycle that is reported lies in the component of each of its ids. -/
theorem isReported_of_mem (hcycle : cycle ∈ t.cycles) (hy : y ∈ cycle) (hxy : SameComponent t.links x y) :
    IsReported t.links (checkCycles r t) x := by
  refine isReported_iff.2 ⟨cycle, hcycle, fun id hid => ?_⟩
  exact hxy.trans ((Topology.isCycle_of_mem_cycles hcycle).sameComponent hy hid)

theorem isReported_iff_avoids : IsReported t.links (checkCycles r t) x ↔
    ∃ y, SameComponent t.links x y ∧ OnCycle (avoiding t.approaches t.links) y := by
  constructor
  · intro h
    rcases isReported_iff.1 h with ⟨cycle, hcycle, hsame⟩
    have hc := Topology.isCycle_of_mem_cycles hcycle
    -- no search comes through the ids along a cycle that is reported
    have hclear : ∀ z ∈ cycle, z ∉ t.approaches := by
      intro z hz hmem
      have hdisjoint := (List.nodup_append.1 (Topology.nodup_cycles_append_approaches t)).2.2
      exact hdisjoint z (List.mem_flatten.2 ⟨cycle, hcycle, hz⟩) z hmem rfl
    have hfirst := List.head_mem hc.ne_nil
    exact ⟨_, hsame _ hfirst, (hc.avoiding hclear).onCycle hfirst⟩
  · rintro ⟨y, hxy, hcycle⟩
    -- every cycle meets what the searches leave behind, and this one does not meet an approach
    have hac := Topology.acyclic_avoiding t
    rw [avoiding_congr fun z => (List.perm_append_comm).mem_iff, avoiding_append] at hac
    rcases hcycle.avoids_or_meets t.cycles.flatten with hclear | ⟨z, hz, hyz⟩
    · exact absurd hclear (hac y)
    · rcases List.mem_flatten.1 hz with ⟨cycle, hcycle, hz⟩
      exact isReported_of_mem hcycle hz (hxy.trans hyz.of_avoiding)

/-- Where no other cycle can be reached, one is reported. -/
theorem isReported_of_last (hx : OnCycle t.links x)
    (hlast : ∀ y, OnCycle t.links y → Relation.ReflTransGen (Leads t.links) x y →
      Relation.ReflTransGen (Leads t.links) y x) : IsReported t.links (checkCycles r t) x := by
  rcases hx.avoids_or_meets (t.cycles.flatten ++ t.approaches) with hclear | ⟨z, hz, hxz⟩
  · exact absurd hclear (Topology.acyclic_avoiding t x)
  · rcases List.mem_append.1 hz with hz | hz
    · rcases List.mem_flatten.1 hz with ⟨cycle, hcycle, hz⟩
      exact isReported_of_mem hcycle hz hxz
    -- the search has come through `z` to a cycle that can be reached from `x`
    · rcases Topology.exists_reached_of_mem_approaches hz with ⟨cycle, hcycle, y, hy, hzy⟩
      have honcycle := (Topology.isCycle_of_mem_cycles hcycle).onCycle hy
      have hxy := hxz.1.trans hzy
      exact isReported_of_mem hcycle hy ⟨hxy, hlast y honcycle hxy⟩

/-- No id stands in two findings about cycles, and a component with a cycle has a finding of its own exactly if
one of its cycles keeps clear of the ids through which the searches have come to the cycles that they report. It
has one if no cycle of another component can be reached from it. -/
theorem component_reported_iff (r : Registry) (t : Topology) :
    ((checkCycles r t).flatMap Finding.related).Nodup ∧
      (∀ v, t.validate r = .ok v → ∀ f, f ∈ checkCycles r t ↔ f ∈ v.findings ∧ f.isCircular = true) ∧
        ∀ x, OnCycle t.links x →
          (IsReported t.links (checkCycles r t) x ↔
            ∃ y, SameComponent t.links x y ∧ OnCycle (avoiding t.approaches t.links) y) ∧
          ((∀ y, OnCycle t.links y → Relation.ReflTransGen (Leads t.links) x y →
            Relation.ReflTransGen (Leads t.links) y x) → IsReported t.links (checkCycles r t) x) := by
  refine ⟨?_, ?_, ?_⟩
  · rw [List.flatMap_def, map_related_checkCycles]
    exact (List.nodup_append.1 (Topology.nodup_cycles_append_approaches t)).1
  · intro v hv f
    exact mem_checkCycles_iff hv
  · intro x hx
    exact ⟨isReported_iff_avoids, isReported_of_last hx⟩

/-- Two services that depend on each other, and two others that do so and depend on one of them. -/
def eclipsed : Topology :=
  let service (id : String) : ResourceInstance := ⟨id, "dotnet-project", id, none, .empty⟩
  ⟨["a", "b", "c", "d"].map service,
    [.make "" "a" "c" .reference, .make "" "a" "b" .reference, .make "" "b" "a" .reference,
      .make "" "c" "d" .reference, .make "" "d" "c" .reference]⟩

/-- The links of the two that depend on nothing else stay between them. -/
theorem eclipsed_closed : ∀ c ∈ eclipsed.links, c.source ∈ ["c", "d"] → c.target ∈ ["c", "d"] := by
  decide

theorem eclipsed_reported : OnCycle eclipsed.links "c" ∧
    IsReported eclipsed.links (checkCycles .standard eclipsed) "c" := by
  have hcd : Leads eclipsed.links "c" "d" := by decide +kernel
  have hdc : Leads eclipsed.links "d" "c" := by decide +kernel
  have hcycle : OnCycle eclipsed.links "c" := (Relation.TransGen.single hcd).tail hdc
  refine ⟨hcycle, ((component_reported_iff .standard eclipsed).2.2 "c" hcycle).2 fun y _ hreach => ?_⟩
  have hy := mem_of_reaches eclipsed_closed List.mem_cons_self hreach
  rcases List.mem_cons.1 hy with rfl | hy
  · exact .refl
  · rw [List.mem_singleton.1 hy]
    exact .single hdc

/-- The search from the first service goes on to the others, and closes their cycle before its own. -/
theorem eclipsed_cycles : eclipsed.cycles = [["c", "d"]] := by
  have hids : eclipsed.ids.eraseDups = ["a", "b", "c", "d"] := by decide
  have ha : frame eclipsed.links "a" = ⟨"a", ["c", "b"]⟩ := by decide
  have hb : frame eclipsed.links "b" = ⟨"b", ["a"]⟩ := by decide
  have hc : frame eclipsed.links "c" = ⟨"c", ["d"]⟩ := by decide
  have hd : frame eclipsed.links "d" = ⟨"d", ["c"]⟩ := by decide
  simp [Topology.cycles, hids, searchAll, ha, hb, hc, hd, search, loopTo]

theorem eclipsed_not_reported : OnCycle eclipsed.links "a" ∧
    ¬ IsReported eclipsed.links (checkCycles .standard eclipsed) "a" := by
  have hab : Leads eclipsed.links "a" "b" := by decide +kernel
  have hba : Leads eclipsed.links "b" "a" := by decide +kernel
  refine ⟨(Relation.TransGen.single hab).tail hba, ?_⟩
  rw [isReported_iff, eclipsed_cycles]
  rintro ⟨cycle, hcycle, hsame⟩
  rw [List.mem_singleton.1 hcycle] at hsame
  have hback := mem_of_reaches eclipsed_closed List.mem_cons_self (hsame "c" List.mem_cons_self).2
  exact absurd hback (by decide)

end HostTopology
