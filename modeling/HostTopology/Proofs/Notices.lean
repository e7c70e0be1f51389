import HostTopology.Proofs.Relabeling
import HostTopology.Proofs.Results
import HostTopology.Validation.Report

/-!
# Notices — what a finding says without an id

A finding holds ids to tell where it was found. Whether it stands in the way of code, and what it says
then, does not depend on them. This file follows this part of the findings, rule by rule, to a topology
under other ids:

* `Finding.notice`, `notices` — the severity and the message of findings;
* `Relabels.notices_checkNaming` to `Relabels.notices_checkCycles` — one equation for each family of rules;
* `Relabels.notices_validate` — the whole report, which fails on both sides or on none.
-/

namespace Except

variable {ε α β γ : Type}

/-- The results of a traversal can be changed one by one. -/
theorem map_mapM (k : β → γ) (g : α → Except ε β) (l : List α) :
    (l.mapM g).map (List.map k) = l.mapM fun x => (g x).map k := by
  induction l with
  | nil => rfl
  | cons x l ih =>
    rw [List.mapM_cons, List.mapM_cons, ← ih]
    cases g x with
    | error e => rfl
    | ok y => cases l.mapM g <;> rfl

/-- What is made of the results of a traversal can be made of the changed results. -/
theorem map_mapM_bind {δ ζ : Type} {k : β → γ} {join : List β → δ} {change : δ → ζ} {join' : List γ → ζ}
    (hjoin : ∀ ys, change (join ys) = join' (ys.map k)) (g : α → Except ε β) (l : List α) :
    (l.mapM g >>= fun ys => .ok (join ys)).map change = (l.mapM fun x => (g x).map k).map join' := by
  rw [← map_mapM]
  cases l.mapM g with
  | error e => rfl
  | ok ys => exact congrArg Except.ok (hjoin ys)

theorem map_mapError {δ : Type} (k : α → β) (g : ε → δ) (x : Except ε α) :
    (x.mapError g).map k = (x.map k).mapError g := by
  cases x <;> rfl

/-- Where two results are the same after a change, what only looks at what is left by the change goes on alike. -/
theorem bind_eq_of_map_eq {x y : Except ε α} {k : α → β} {g g' : α → Except ε γ} (h : x.map k = y.map k)
    (hg : ∀ a b, k a = k b → g a = g' b) : (x >>= g) = (y >>= g') := by
  cases x with
  | error e =>
    cases y with
    | error e' => exact congrArg Except.error (Except.error.inj h)
    | ok b => cases h
  | ok a =>
    cases y with
    | error e' => cases h
    | ok b => exact hg a b (Except.ok.inj h)

end Except

namespace HostTopology

open Connection (Follows)

/-- What follows corresponding connections with equal parts is equal. -/
theorem flatMap_eq_of_follows {α : Type} {f : String → String} {cs cs' : List Connection}
    {g g' : Connection → List α} (h : List.Forall₂ (Follows f) cs cs')
    (hg : ∀ c c', Follows f c c' → g' c' = g c) : cs'.flatMap g' = cs.flatMap g := by
  induction h with
  | nil => rfl
  | cons hc _ ih => rw [List.flatMap_cons, List.flatMap_cons, ih, hg _ _ hc]

theorem isEmpty_eq_of_follows {f : String → String} {cs cs' : List Connection}
    (h : List.Forall₂ (Follows f) cs cs') : cs'.isEmpty = cs.isEmpty := by
  cases h <;> rfl

namespace Validation

variable {r : Registry} {f : String → String} {i : ResourceInstance} {found : List Finding}

/-! ## Severity and message -/

def Finding.notice (f : Finding) : Severity × String :=
  (f.severity, f.message)

def notices (found : List Finding) : List (Severity × String) :=
  found.map Finding.notice

@[simp] theorem notices_append (xs ys : List Finding) : notices (xs ++ ys) = notices xs ++ notices ys :=
  List.map_append

theorem notices_flatten (l : List (List Finding)) : notices l.flatten = (l.map notices).flatten :=
  List.map_flatten

theorem notices_flatMap {α : Type} (g : α → List Finding) (l : List α) :
    notices (l.flatMap g) = l.flatMap fun x => notices (g x) :=
  List.map_flatMap

theorem notices_findWhen (p : Bool) (g : Finding) : notices (findWhen p g) = if p then [g.notice] else [] := by
  cases p <;> rfl

theorem messages_blocking (v : Report) : v.blocking.map Finding.message =
    ((notices v.findings).filter fun n => n.1 = .error).map Prod.snd := by
  rw [notices, List.filter_map, List.map_map]
  rfl

theorem isValid_eq (v : Report) :
    v.isValid = ((notices v.findings).filter fun n => n.1 = .error).isEmpty := by
  rw [notices, List.filter_map, List.isEmpty_map]
  rfl

/-! ## Rules about one instance -/

theorem notices_checkName : notices (checkName r (i.relabel f)) = notices (checkName r i) := by
  have hname : (i.relabel f).name = i.name := rfl
  rw [checkName, checkName, hname]
  split
  · rfl
  · rw [notices_findWhen, notices_findWhen]
    rfl

theorem notices_checkDatabaseName :
    notices (checkDatabaseName r (i.relabel f)) = notices (checkDatabaseName r i) := by
  have hdatabase : r.databaseOf? (i.relabel f) = r.databaseOf? i := rfl
  rw [checkDatabaseName, checkDatabaseName, hdatabase]
  split
  · rw [notices_findWhen, notices_findWhen]
    rfl
  · rfl

theorem notices_checkNameParameter :
    notices (checkNameParameter r (i.relabel f)) = notices (checkNameParameter r i) := by
  have htype : (i.relabel f).resourceType = i.resourceType := rfl
  have hname : (i.relabel f).name = i.name := rfl
  rw [checkNameParameter, checkNameParameter, htype, hname]
  cases r.find? i.resourceType with
  | none => rfl
  | some type =>
    cases hparameter : type.builder.parameter? "name" with
    | none => simp only [hparameter]
    | some p =>
      simp only [hparameter]
      split
      · rfl
      · rw [notices, notices, List.map_map, List.map_map]
        rfl

theorem notices_checkArgument (method : String) (p : Catalog.Parameter) :
    (checkArgument (i.relabel f) method p).map notices = (checkArgument i method p).map notices := by
  have hvalue : builderArgument (i.relabel f) p.name = builderArgument i p.name := rfl
  rw [checkArgument, checkArgument, hvalue]
  cases builderArgument i p.name with
  | error e => rfl
  | ok v =>
    refine congrArg Except.ok ?_
    rw [notices, notices, List.map_map, List.map_map]
    rfl

theorem notices_checkPort (node : String) (position : Nat) (p : PortMapping) :
    (checkPort (f node) position p).map notices = (checkPort node position p).map notices := by
  rw [checkPort, checkPort]
  split
  · rfl
  · cases isPort p.container with
    | error e => rfl
    | ok b => cases b <;> rfl

theorem notices_checkStorage : notices (checkStorage r (i.relabel f)) = notices (checkStorage r i) := by
  simp only [checkStorage, notices_append, notices_findWhen]
  rfl

/-- What is found in the configuration of an instance of a known category. -/
theorem map_checkConfiguration (hcategory : (r.categoryOf? i).isNone = false) :
    (checkConfiguration r i).map notices =
      (i.config.ports.zipIdx.mapM fun (p, n) => (checkPort i.id n p).map notices).map
        fun parts : List (List (Severity × String)) => notices (checkStorage r i)
          ++ notices (i.config.envVars.zipIdx.flatMap fun (v, n) => checkEnvKey i.id n v) ++ parts.flatten := by
  rw [checkConfiguration, hcategory]
  refine Except.map_mapM_bind (fun ys => ?_) _ _
  rw [notices_append, notices_append, notices_flatten]

theorem notices_checkEnvKeys (vars : List (EnvVar × Nat)) (node : String) :
    notices (vars.flatMap fun (v, n) => checkEnvKey (f node) n v) =
      notices (vars.flatMap fun (v, n) => checkEnvKey node n v) := by
  simp only [notices_flatMap, checkEnvKey, notices_findWhen]
  rfl

theorem notices_checkConfiguration :
    (checkConfiguration r (i.relabel f)).map notices = (checkConfiguration r i).map notices := by
  cases hcategory : (r.categoryOf? i).isNone with
  | true =>
    have hcategory' : (r.categoryOf? (i.relabel f)).isNone = true := hcategory
    rw [checkConfiguration, checkConfiguration, hcategory, hcategory']
    rfl
  | false =>
    have hcategory' : (r.categoryOf? (i.relabel f)).isNone = false := hcategory
    have hconfig : (i.relabel f).config = i.config := rfl
    have hid : (i.relabel f).id = f i.id := rfl
    rw [map_checkConfiguration hcategory, map_checkConfiguration hcategory', notices_checkStorage, hconfig, hid,
      notices_checkEnvKeys]
    simp only [notices_checkPort]

theorem notices_checkSecurity : notices (checkSecurity (i.relabel f)) = notices (checkSecurity i) := by
  simp only [checkSecurity, checkOpenAi, checkSecret, notices_append, notices_flatMap, notices_findWhen]
  rfl

/-! ## Rules about the topology -/

theorem groupBy_map {α β γ : Type} [BEq γ] (key : β → γ) (g : α → β) (l : List α) :
    groupBy key (l.map g) = (groupBy (fun a => key (g a)) l).map fun e => (e.1, e.2.map g) := by
  simp only [groupBy, List.map_map, List.filter_map, Function.comp_def]

/-- A declared variable under another id. -/
def Declared.relabel (f : String → String) (d : Declared) : Declared :=
  { d with node := f d.node }

theorem declaredFor_relabel : declaredFor r (i.relabel f) = (declaredFor r i).map (Declared.relabel f) := by
  have hname : (i.relabel f).name = i.name := rfl
  have htype : (i.relabel f).resourceType = i.resourceType := rfl
  have hdatabase : r.databaseOf? (i.relabel f) = r.databaseOf? i := rfl
  rw [declaredFor, declaredFor, hname, htype, hdatabase]
  split
  · rfl
  · cases r.databaseOf? i <;> rfl

/-- A collision is told by what the variable is declared for. -/
theorem notices_collision {name node node' : String} {origins origins' : List Origin} {nodes nodes' : List String}
    (horigins : origins' = origins) :
    notices (findWhen (collides origins') (.variableCollision name node' origins' nodes')) =
      notices (findWhen (collides origins) (.variableCollision name node origins nodes)) := by
  rw [horigins, notices_findWhen, notices_findWhen]
  rfl

/-- A cycle is told by the titles along it. -/
theorem notice_cycle {first first' : Member} {rest rest' : List Member}
    (htitles : (first' :: rest').map Member.title = (first :: rest).map Member.title) :
    (Finding.cycle first' rest').notice = (Finding.cycle first rest).notice := by
  have hround : cycleTitles first' rest' = cycleTitles first rest := by
    have hfirst : first'.title = first.title := (List.cons.inj htitles).1
    rw [cycleTitles, cycleTitles, List.map_append, List.map_append, htitles, List.map_singleton, hfirst,
      List.map_singleton]
  have hnotice : ∀ first rest, (Finding.cycle first rest).notice =
      (.error, "Circular dependency detected: " ++ " → ".intercalate (cycleTitles first rest)) := fun _ _ => rfl
  rw [hnotice, hnotice, hround]

end Validation

namespace Topology
namespace Relabels

open Validation

variable {r : Registry} {f : String → String} {t u : Topology} (h : t.Relabels f u) (hf : Function.Injective f)

section Naming

include h

theorem notices_checkDuplicates : notices (checkDuplicates u) = notices (checkDuplicates t) := by
  have hnamed : (u.instances.filter fun i => !isBlankText i.name) =
      (t.instances.filter fun i => !isBlankText i.name).map (ResourceInstance.relabel f) := by
    rw [h.instances, List.filter_map]
    rfl
  have hgroups := groupBy_map ResourceInstance.name (ResourceInstance.relabel f)
    (t.instances.filter fun i => !isBlankText i.name)
  rw [checkDuplicates, checkDuplicates, hnamed, hgroups, notices, notices, List.filterMap_map,
    List.map_filterMap, List.map_filterMap]
  refine List.filterMap_congr ?_
  rintro ⟨name, holders⟩ -
  match holders with
  | [] => rfl
  | [_] => rfl
  | _ :: _ :: _ => rfl

theorem notices_checkVariables : notices (checkVariables r u) = notices (checkVariables r t) := by
  have hdeclared : u.instances.flatMap (declaredFor r) =
      (t.instances.flatMap (declaredFor r)).map (Declared.relabel f) := by
    rw [h.instances, List.flatMap_map, List.map_flatMap]
    simp only [declaredFor_relabel]
  have hgroups := groupBy_map Declared.name (Declared.relabel f) (t.instances.flatMap (declaredFor r))
  rw [checkVariables, checkVariables, hdeclared, hgroups, List.flatMap_map, notices_flatMap, notices_flatMap]
  refine List.flatMap_congr ?_
  rintro ⟨name, entries⟩ -
  have horigins : (entries.map (Declared.relabel f)).map Declared.origin = entries.map Declared.origin := by
    rw [List.map_map]
    rfl
  match entries with
  | [] => rfl
  | first :: others =>
    exact notices_collision horigins

theorem notices_checkNaming : notices (checkNaming r u) = notices (checkNaming r t) := by
  simp only [checkNaming, notices_append, notices_flatMap, h.notices_checkDuplicates, h.notices_checkVariables]
  rw [h.instances, List.flatMap_map]
  simp only [notices_checkName, notices_checkDatabaseName, notices_checkNameParameter]

end Naming

include h hf

theorem length_incoming (id : String) : (u.incoming (f id)).length = (t.incoming id).length :=
  (h.incoming_follow hf id).length_eq.symm

theorem isEmpty_incoming (id : String) : (u.incoming (f id)).isEmpty = (t.incoming id).isEmpty :=
  isEmpty_eq_of_follows (h.incoming_follow hf id)

theorem isEmpty_outgoing (id : String) : (u.outgoing (f id)).isEmpty = (t.outgoing id).isEmpty :=
  isEmpty_eq_of_follows (h.outgoing_follow hf id)

theorem notices_checkMethods (i : ResourceInstance) :
    (checkMethods r u (i.relabel f)).map notices = (checkMethods r t i).map notices := by
  have hreference : notices (checkReference r u (i.relabel f)) = notices (checkReference r t i) := by
    have hid : (i.relabel f).id = f i.id := rfl
    rw [checkReference, checkReference, hid, h.isEmpty_incoming hf, notices_findWhen, notices_findWhen]
    rfl
  have htype : (i.relabel f).resourceType = i.resourceType := rfl
  rw [checkMethods, checkMethods, htype]
  cases r.find? i.resourceType with
  | none => rfl
  | some type =>
    -- the issues about arguments come before the one about references
    have hparts : ∀ (t : Topology) (i : ResourceInstance),
        (type.builder.parameters.mapM (checkArgument i type.builder.name) >>= fun found =>
          (.ok (found.flatten ++ checkReference r t i) : Except Text.NumeralError (List Finding))).map notices =
        (type.builder.parameters.mapM fun p => (checkArgument i type.builder.name p).map notices).map
          fun parts : List (List (Severity × String)) => parts.flatten ++ notices (checkReference r t i) := by
      intro t i
      refine Except.map_mapM_bind (fun ys => ?_) _ _
      rw [notices_append, notices_flatten]
    refine (hparts u (i.relabel f)).trans (Eq.trans ?_ (hparts t i).symm)
    simp only [notices_checkArgument, hreference]

theorem notices_checkConnection {c c' : Connection} (hc : Follows f c c') :
    notices (checkConnection r u c') = notices (checkConnection r t c) := by
  rw [checkConnection, checkConnection, hc.source, hc.target, h.find?_eq hf, h.find?_eq hf]
  cases hs : t.find? c.source with
  | none => cases ht : t.find? c.target <;> rfl
  | some source =>
    cases ht : t.find? c.target with
    | none => rfl
    | some target =>
      simp only [Option.map_some, notices_append, notices_findWhen, hf.eq_iff]
      rfl

theorem notices_checkArchitecture : notices (checkArchitecture r u) = notices (checkArchitecture r t) := by
  have huse : ∀ i, notices (checkUse r u (i.relabel f)) = notices (checkUse r t i) := by
    intro i
    have hid : (i.relabel f).id = f i.id := rfl
    simp only [checkUse, notices_append, notices_findWhen, hid, h.isEmpty_incoming hf, h.isEmpty_outgoing hf]
    rfl
  have hshared : ∀ service, notices (checkShared r u service) = notices (checkShared r t service) := by
    intro service
    have hmembers : (u.instances.filter fun i => r.categoryOf? i = some service.category) =
        (t.instances.filter fun i => r.categoryOf? i = some service.category).map (ResourceInstance.relabel f) := by
      rw [h.instances, List.filter_map]
      rfl
    rw [checkShared, checkShared, hmembers, notices_findWhen, notices_findWhen, List.length_map]
    cases service <;> rfl
  simp only [checkArchitecture, notices_append, notices_flatMap, hshared]
  rw [h.instances, List.flatMap_map]
  simp only [huse]

theorem notices_checkPerformance (i : ResourceInstance) :
    notices (checkPerformance r u (i.relabel f)) = notices (checkPerformance r t i) := by
  have hid : (i.relabel f).id = f i.id := rfl
  rw [checkPerformance, checkPerformance, hid, h.length_incoming hf, notices_findWhen, notices_findWhen]
  rfl

/-- The ids on a cycle are there, so that a title is found for each. -/
theorem title_memberOf {id : String} (hid : id ∈ t.ids) :
    (memberOf r u (f id)).title = (memberOf r t id).title := by
  rw [memberOf, memberOf, h.find?_eq hf]
  cases hfind : t.find? id with
  | none => exact absurd (find?_isSome_iff.2 hid) (by rw [hfind]; decide)
  | some i => rfl

theorem notices_checkCycles : notices (checkCycles r u) = notices (checkCycles r t) := by
  rw [checkCycles, checkCycles, h.cycles_eq hf, List.filterMap_map, notices, notices, List.map_filterMap,
    List.map_filterMap]
  refine List.filterMap_congr fun ids hids => ?_
  have htitles : ((ids.map f).map (memberOf r u)).map Member.title = (ids.map (memberOf r t)).map Member.title := by
    simp only [List.map_map]
    refine List.map_congr_left fun id hid => ?_
    exact h.title_memberOf hf (t.links_joins.mem_of_onCycle ((isCycle_of_mem_cycles hids).onCycle hid))
  match ids with
  | [] => rfl
  | first :: rest => exact congrArg some (notice_cycle htitles)

theorem notices_checkConnections :
    notices (u.connections.flatMap (checkConnection r u)) = notices (t.connections.flatMap (checkConnection r t)) := by
  rw [notices_flatMap, notices_flatMap]
  exact flatMap_eq_of_follows h.connections fun _ _ hc => h.notices_checkConnection hf hc

/-- Under other ids the same is found, or the same ends the validation. -/
theorem notices_validate :
    (u.validate r).map (fun v => notices v.findings) = (t.validate r).map fun v => notices v.findings := by
  -- the rules that can fail come first, and their findings are joined to those of the others
  have hparts : ∀ t : Topology, (t.validate r).map (fun v => notices v.findings) =
      (t.instances.mapM fun i => (checkMethods r t i).map notices) >>= fun methods =>
        (t.instances.mapM fun i => (checkConfiguration r i).map notices) >>= fun configuration =>
          .ok (notices (checkNaming r t) ++ methods.flatten ++ notices (t.connections.flatMap (checkConnection r t))
            ++ configuration.flatten ++ notices (checkArchitecture r t) ++ notices (t.instances.flatMap checkSecurity)
            ++ notices (t.instances.flatMap (checkPerformance r t)) ++ notices (checkCycles r t)) := by
    intro t
    rw [validate, ← Except.map_mapM, ← Except.map_mapM]
    cases t.instances.mapM (checkMethods r t) with
    | error e => rfl
    | ok methods =>
      cases t.instances.mapM (checkConfiguration r) with
      | error e => rfl
      | ok configuration =>
        refine congrArg Except.ok ?_
        simp only [notices_append, notices_flatten]
  have hmethods : (u.instances.mapM fun i => (checkMethods r u i).map notices) =
      t.instances.mapM fun i => (checkMethods r t i).map notices := by
    rw [h.instances, List.mapM_map]
    exact congrArg (fun g => List.mapM g t.instances) (funext (h.notices_checkMethods hf))
  have hconfiguration : (u.instances.mapM fun i => (checkConfiguration r i).map notices) =
      t.instances.mapM fun i => (checkConfiguration r i).map notices := by
    rw [h.instances, List.mapM_map]
    exact congrArg (fun g => List.mapM g t.instances) (funext fun _ => notices_checkConfiguration)
  have hsecurity : notices (u.instances.flatMap checkSecurity) = notices (t.instances.flatMap checkSecurity) := by
    rw [h.instances, List.flatMap_map, notices_flatMap, notices_flatMap]
    simp only [notices_checkSecurity]
  have hperformance : notices (u.instances.flatMap (checkPerformance r u)) =
      notices (t.instances.flatMap (checkPerformance r t)) := by
    rw [h.instances, List.flatMap_map, notices_flatMap, notices_flatMap]
    simp only [h.notices_checkPerformance hf]
  rw [hparts u, hparts t, hmethods, hconfiguration, h.notices_checkNaming, h.notices_checkConnections hf,
    h.notices_checkArchitecture hf, hsecurity, hperformance, h.notices_checkCycles hf]

end Relabels
end Topology
end HostTopology
