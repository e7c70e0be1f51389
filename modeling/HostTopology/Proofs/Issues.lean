import HostTopology.Proofs.Acceptance
import HostTopology.Proofs.Agreement

/-!
# Issues — findings as they are reported

A report shows issues, which are texts and ids; the findings behind them are not shown. The id of an issue begins
with the name of the rule that it comes from, so that the cycles can be picked out of a report again.

* `Finding.rule` — the name of a rule, with which the ids of its issues begin;
* `isCircular_issue` — an issue is about a cycle exactly if its id says so;
* `filter_isCircular_issues` — the issues about cycles are those of the search for cycles, each of them once;
* `exists_members` — a message about a cycle names the instances that the ids along it stand for;
* `circular_issues_sound` — what is reported as a cycle is one, and no two of these have an id in common.
-/

namespace HostTopology
namespace Validation

open HostTopology.Cycle

variable {r : Registry} {t : Topology} {f : Finding} {v : Report}

/-! ## Rules by their names -/

/-- The name of the rule, as the ids of its issues begin with it. -/
def Finding.rule : Finding → String
  | missingName .. => "naming-missing-"
  | invalidName .. => "naming-invalid-"
  | invalidDatabase .. => "naming-invalid-db-"
  | nameFault .. => "naming-constraint-"
  | duplicateName .. => "naming-duplicate-"
  | variableCollision .. => "naming-variable-collision-"
  | unknownType .. => "api-unknown-"
  | argumentFault .. => "api-param-"
  | noReference .. => "api-no-reference-"
  | orphan .. => "connection-orphan-"
  | incompatible .. => "connection-invalid-"
  | selfConnection .. => "connection-self-"
  | noDatabase .. => "config-no-database-"
  | notPersistent .. => "config-non-persistent-"
  | envKey .. => "config-env-key-"
  | port .. => "config-port-"
  | isolated .. => "arch-isolated-project-"
  | unused .. => "arch-unused-resource-"
  | several .. => "arch-multiple-"
  | secret .. => "security-hardcoded-secret-"
  | openAiKey .. => "security-openai-config-"
  | fewReplicas .. => "perf-replicas-"
  | cycle .. => "arch-circular-"

theorem prefix_append_text {name text : String} (h : name.toList <+: text.toList) (more : String) :
    name.toList <+: (text ++ more).toList := by
  rw [String.toList_append]
  exact h.trans (List.prefix_append _ _)

theorem Finding.rule_prefix (f : Finding) : f.rule.toList <+: f.id.toList := by
  cases f with
  | several service members =>
    cases service with
    | messaging => exact (by decide : "arch-multiple-".toList <+: "arch-multiple-messaging".toList)
    | cache => exact (by decide : "arch-multiple-".toList <+: "arch-multiple-cache".toList)
  | nameFault | variableCollision | envKey | port | secret =>
    exact prefix_append_text (prefix_append_text (prefix_append_text List.prefix_rfl _) _) _
  | argumentFault =>
    exact prefix_append_text (prefix_append_text (prefix_append_text (prefix_append_text (prefix_append_text
      List.prefix_rfl _) _) _) _) _
  | _ => exact prefix_append_text List.prefix_rfl _

def circularRule : String := "arch-circular-"

/-- An issue that is reported by the rule about cycles, as its id tells. -/
def Issue.isCircular (issue : Issue) : Bool :=
  circularRule.toList.isPrefixOf issue.id.toList

/-- The name of no other rule begins like the name of the rule about cycles. -/
theorem Finding.rule_apart (h : f.isCircular = false) :
    ¬ circularRule.toList <+: f.rule.toList ∧ ¬ f.rule.toList <+: circularRule.toList := by
  cases f with
  | cycle => cases h
  | _ =>
    simp only [rule]
    decide

theorem isCircular_issue (f : Finding) : f.issue.isCircular = f.isCircular := by
  have hprefix := f.rule_prefix
  have hiff : f.issue.isCircular = true ↔ circularRule.toList <+: f.id.toList := List.isPrefixOf_iff_prefix
  rw [Bool.eq_iff_iff, hiff]
  cases hcircular : f.isCircular with
  | true =>
    have hrule : f.rule = circularRule := by
      cases f with
      | cycle => rfl
      | _ => cases hcircular
    exact iff_of_true (hrule ▸ hprefix) rfl
  | false =>
    obtain ⟨hnot, hnot'⟩ := Finding.rule_apart hcircular
    -- of two beginnings of one text the shorter one is a beginning of the other
    refine iff_of_false (fun h => ?_) Bool.false_ne_true
    exact (List.prefix_or_prefix_of_prefix h hprefix).elim hnot hnot'

/-! ## The issues about cycles -/

theorem filter_isCircular_checkCycles : (checkCycles r t).filter Finding.isCircular = checkCycles r t :=
  List.filter_eq_self.2 fun _ hf => isCircular_of_mem_checkCycles hf

/-- Families other than that of the architecture have no rule about cycles. -/
theorem Within.filter_isCircular {families : List Family} {found : List Finding} (h : Within families found)
    (hother : .architecture ∉ families) : found.filter Finding.isCircular = [] := by
  refine List.filter_eq_nil_iff.2 fun f hf hcircular => hother ?_
  rw [← family_of_isCircular hcircular]
  exact h f hf

theorem filter_isCircular_findings (hv : t.validate r = .ok v) :
    v.findings.filter Finding.isCircular = checkCycles r t := by
  obtain ⟨methods, configuration, -, -, hwithin, hfindings⟩ := exists_parts hv
  have harchitecture : (checkArchitecture r t).filter Finding.isCircular = [] := by
    refine List.filter_eq_nil_iff.2 fun f hf hcircular => ?_
    exact quiet_checkArchitecture.not_mem hcircular hf
  simp only [groups, List.forall_mem_cons] at hwithin
  obtain ⟨hnaming, hmethods, hconnections, hconfiguration, -, hsecurity, hperformance, -⟩ := hwithin
  simp only [hfindings, groups, List.flatMap_cons, List.flatMap_nil, List.filter_append,
    hnaming.filter_isCircular (by decide), hmethods.filter_isCircular (by decide),
    hconnections.filter_isCircular (by decide), hconfiguration.filter_isCircular (by decide), harchitecture,
    hsecurity.filter_isCircular (by decide), hperformance.filter_isCircular (by decide),
    filter_isCircular_checkCycles, List.nil_append, List.append_nil]

theorem filter_isCircular_issues (hv : t.validate r = .ok v) :
    v.issues.filter Issue.isCircular = (checkCycles r t).map Finding.issue := by
  have hcomp : Issue.isCircular ∘ Finding.issue = Finding.isCircular := funext isCircular_issue
  rw [Report.issues, List.filter_map, hcomp, filter_isCircular_findings hv]

/-! ## What an issue about a cycle says -/

theorem eq_map_memberOf {first : Member} {rest : List Member} (hf : .cycle first rest ∈ checkCycles r t) :
    first :: rest = ((first :: rest).map Member.id).map (memberOf r t) := by
  rw [checkCycles, List.mem_filterMap] at hf
  obtain ⟨ids, -, hids⟩ := hf
  split at hids
  · rename_i first' rest' hmembers
    obtain ⟨rfl, rfl⟩ := Finding.cycle.inj (Option.some.inj hids)
    rw [← hmembers, map_id_memberOf]
  · cases hids

/-- The message names the instances along the cycle, and the first one again. -/
theorem exists_members (hf : f ∈ checkCycles r t) : ∃ members : List ResourceInstance,
    members.map ResourceInstance.id = f.related ∧ (∀ i ∈ members, t.find? i.id = some i) ∧
      f.message = "Circular dependency detected: "
        ++ " → ".intercalate ((members ++ members.head?.toList).map r.titleOf) := by
  obtain ⟨first, rest, rfl, hcycle⟩ := exists_of_mem_checkCycles hf
  have hc := Topology.isCycle_of_mem_cycles hcycle
  have hmembers := eq_map_memberOf hf
  change (first :: rest).map Member.id ∈ t.cycles at hcycle
  generalize hids : (first :: rest).map Member.id = ids at *
  have hfound : ∀ id ∈ ids, ∃ i, t.find? id = some i ∧ i.id = id := by
    intro id hid
    obtain ⟨i, hi⟩ := Option.isSome_iff_exists.1
      (Topology.find?_isSome_iff.2 (t.links_joins.mem_of_onCycle (hc.onCycle (hids ▸ hid))))
    exact ⟨i, hi, by simpa using List.find?_some hi⟩
  -- every id along the cycle is one of an instance, so that none is passed over
  have hmember : ids.filterMap (fun id => (t.find? id).map (member r)) = ids.map (memberOf r t) := by
    rw [← List.filterMap_eq_map]
    refine List.filterMap_congr fun id hid => ?_
    obtain ⟨i, hi, -⟩ := hfound id hid
    rw [Function.comp_apply, memberOf, hi]
    rfl
  have htitles : (ids.filterMap t.find?).map (member r) = first :: rest := by
    rw [List.map_filterMap, hmember, hmembers]
  refine ⟨ids.filterMap t.find?, ?_, fun i hi => ?_, ?_⟩
  · calc (ids.filterMap t.find?).map ResourceInstance.id
        = ((ids.filterMap t.find?).map (member r)).map Member.id := by rw [List.map_map]; rfl
      _ = (Finding.cycle first rest).related := by rw [htitles]; rfl
  · obtain ⟨id, hid, hi⟩ := List.mem_filterMap.1 hi
    obtain ⟨j, hj, hname⟩ := hfound id hid
    obtain rfl : j = i := Option.some.inj (hj.symm.trans hi)
    rw [hname, hi]
  · -- the title at the end is taken from the same list as the first one
    have hagain : (ids.filterMap t.find? ++ (ids.filterMap t.find?).head?.toList).map (member r) =
        first :: rest ++ [first] := by
      rw [List.map_append, htitles, ← Option.toList_map, ← List.head?_map, htitles]
      rfl
    have hnames : (ids.filterMap t.find? ++ (ids.filterMap t.find?).head?.toList).map r.titleOf =
        cycleTitles first rest := by
      rw [cycleTitles, ← hagain, List.map_map]
      rfl
    rw [hnames]
    rfl

/-- Along the ids of an issue about a cycle there is a cycle of instances that are present, and its message names
them in their order, with the first one again at the end. No id stands in two such issues. -/
theorem circular_issues_sound (hv : t.validate r = .ok v) :
    (∀ issue ∈ v.issues, issue.isCircular = true →
      IsCycle t.links issue.related ∧ (∀ id ∈ issue.related, id ∈ t.ids) ∧
        ∃ members : List ResourceInstance, members.map ResourceInstance.id = issue.related ∧
          (∀ i ∈ members, t.find? i.id = some i) ∧
            issue.message = "Circular dependency detected: "
              ++ " → ".intercalate ((members ++ members.head?.toList).map r.titleOf)) ∧
      ((v.issues.filter Issue.isCircular).flatMap Issue.related).Nodup := by
  constructor
  · intro issue hissue hcircular
    obtain ⟨f, hf, rfl⟩ : ∃ f ∈ checkCycles r t, f.issue = issue := by
      have hmem : issue ∈ v.issues.filter Issue.isCircular := List.mem_filter.2 ⟨hissue, hcircular⟩
      rwa [filter_isCircular_issues hv, List.mem_map] at hmem
    obtain ⟨first, rest, -, hcycle⟩ := exists_of_mem_checkCycles hf
    have hc := Topology.isCycle_of_mem_cycles hcycle
    exact ⟨hc, fun id hid => t.links_joins.mem_of_onCycle (hc.onCycle hid), exists_members hf⟩
  · have hrelated : (v.issues.filter Issue.isCircular).flatMap Issue.related = t.cycles.flatten := by
      rw [filter_isCircular_issues hv, List.flatMap_def, List.map_map, ← map_related_checkCycles (r := r)]
      rfl
    rw [hrelated]
    exact (List.nodup_append.1 (Topology.nodup_cycles_append_approaches t)).1

end Validation

open Validation HostTopology.Cycle

/-- Two services that depend on each other, one of them by two connections, and one that depends on itself and
on one that is missing. The first id stands for two services. -/
def looped : Topology :=
  let service (id name : String) : ResourceInstance := ⟨id, "dotnet-project", name, none, .empty⟩
  ⟨[service "a" "api", service "b" "", service "a" "worker", service "c" "cron"],
    [.make "" "a" "b" .reference, .make "" "a" "b" .waitFor, .make "" "b" "a" .reference,
      .make "" "z" "c" .reference, .make "" "c" "c" .reference]⟩

theorem looped_cycles : looped.cycles = [["a", "b"], ["c"]] := by
  have hids : looped.ids.eraseDups = ["a", "b", "c"] := by decide
  have ha : frame looped.links "a" = ⟨"a", ["b", "b"]⟩ := by decide
  have hb : frame looped.links "b" = ⟨"b", ["a"]⟩ := by decide
  have hc : frame looped.links "c" = ⟨"c", ["c"]⟩ := by decide
  simp [Topology.cycles, hids, searchAll, ha, hb, hc, search, loopTo]

theorem looped_issues_sound : ∃ v, looped.validate .standard = .ok v ∧
    ∃ issue ∈ v.issues, issue.isCircular = true ∧ issue.related = ["a", "b"] ∧ IsCycle looped.links ["a", "b"] ∧
      issue.message = "Circular dependency detected: api → C# Project → api" := by
  obtain ⟨v, hv⟩ := exists_validate .standard (t := looped) (by
    unfold Topology.HasReadablePorts IsReadablePort
    decide)
  let f : Finding := .cycle ⟨"a", "api"⟩ [⟨"b", "C# Project"⟩]
  have hfound : f ∈ checkCycles .standard looped := by
    rw [checkCycles, looped_cycles]
    decide
  have hissue : f.issue ∈ v.issues := List.mem_map_of_mem ((mem_checkCycles_iff hv).1 hfound).1
  have hsound := (circular_issues_sound hv).1 f.issue hissue (isCircular_issue f)
  exact ⟨v, hv, f.issue, hissue, isCircular_issue f, rfl, hsound.1, by decide⟩

end HostTopology
