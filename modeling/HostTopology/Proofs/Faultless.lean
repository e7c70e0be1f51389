import HostTopology.Artifacts
import HostTopology.Proofs.Cycle
import HostTopology.Proofs.Findings

/-!
# Faultless — what it means that validation finds no error

`Topology.validate` joins the findings of all families, and only errors among them stand in the way
of code. This file takes the families apart:

* `Quiet` — a list of findings without an error;
* `Faultless` — for every rule that reports errors, the fact that it reports none;
* `validate_isValid_iff` — a topology has a report without errors exactly if it is faultless;
* `compile_unblocked_iff` — what is generated when nothing is in the way.
-/

namespace HostTopology
namespace Validation

open Catalog

variable {r : Registry} {t : Topology} {i : ResourceInstance} {c : Connection}

/-! ## Findings without an error -/

def Quiet (found : List Finding) : Prop :=
  ∀ f ∈ found, f.severity ≠ .error

theorem Report.isValid_iff {v : Report} : v.isValid = true ↔ Quiet v.findings := by
  simp [Report.isValid, Report.blocking, Quiet]

theorem quiet_append {xs ys : List Finding} : Quiet (xs ++ ys) ↔ Quiet xs ∧ Quiet ys :=
  List.forall_mem_append

theorem quiet_flatMap {α : Type} {l : List α} {g : α → List Finding} :
    Quiet (l.flatMap g) ↔ ∀ x ∈ l, Quiet (g x) :=
  List.forall_mem_flatMap

theorem quiet_flatten {l : List (List Finding)} : Quiet l.flatten ↔ ∀ found ∈ l, Quiet found :=
  List.forall_mem_flatten

/-- A rule that reports nothing but errors is quiet only when it reports nothing. -/
theorem quiet_iff_eq_nil {found : List Finding} (h : ∀ f ∈ found, f.severity = .error) :
    Quiet found ↔ found = [] := by
  constructor
  · intro hq
    rw [List.eq_nil_iff_forall_not_mem]
    intro f hf
    exact hq f hf (h f hf)
  · rintro rfl f hf
    exact absurd hf List.not_mem_nil

theorem quiet_findWhen {p : Bool} {f : Finding} (h : f.severity ≠ .error) : Quiet (findWhen p f) := by
  intro g hg
  rw [(mem_findWhen.1 hg).2]
  exact h

/-! ## The rules that report errors -/

/-- A finding about a circular dependency. -/
def Finding.isCircular : Finding → Bool
  | .cycle .. => true
  | _ => false

/-- Errors of a rule about single instances or connections, not about cycles. -/
def Plain (found : List Finding) : Prop :=
  ∀ f ∈ found, f.severity = .error ∧ f.isCircular = false

theorem Plain.quiet_iff {found : List Finding} (h : Plain found) : Quiet found ↔ found = [] :=
  quiet_iff_eq_nil fun f hf => (h f hf).1

theorem plain_checkName : Plain (checkName r i) := by
  intro f hf
  rcases mem_checkName_iff.1 hf with ⟨-, rfl⟩ | ⟨-, -, rfl⟩
  · exact ⟨rfl, rfl⟩
  · exact ⟨rfl, rfl⟩

theorem plain_checkDatabaseName : Plain (checkDatabaseName r i) := by
  intro f hf
  obtain ⟨_, -, -, rfl⟩ := mem_checkDatabaseName_iff.1 hf
  exact ⟨rfl, rfl⟩

theorem plain_checkNameParameter : Plain (checkNameParameter r i) := by
  intro f hf
  obtain ⟨_, _, _, _, -, -, -, -, rfl⟩ := mem_checkNameParameter_iff.1 hf
  exact ⟨rfl, rfl⟩

theorem plain_checkDuplicates : Plain (checkDuplicates t) := by
  intro f hf
  obtain ⟨_, _, _, _, -, rfl⟩ := mem_checkDuplicates_iff.1 hf
  exact ⟨rfl, rfl⟩

theorem plain_checkVariables : Plain (checkVariables r t) := by
  intro f hf
  obtain ⟨_, _, _, -, -, rfl⟩ := mem_checkVariables_iff.1 hf
  exact ⟨rfl, rfl⟩

theorem plain_checkReference : Plain (checkReference r t i) := by
  intro f hf
  obtain ⟨-, -, rfl⟩ := mem_checkReference_iff.1 hf
  exact ⟨rfl, rfl⟩

theorem plain_checkConnection : Plain (checkConnection r t c) := by
  intro f hf
  rcases mem_checkConnection_iff.1 hf with ⟨_, _, -, -, ⟨-, rfl⟩ | ⟨-, rfl⟩⟩ | ⟨-, rfl⟩
  · exact ⟨rfl, rfl⟩
  · exact ⟨rfl, rfl⟩
  · exact ⟨rfl, rfl⟩

theorem severity_checkCycles : ∀ f ∈ checkCycles r t, f.severity = .error := by
  intro f hf
  rw [checkCycles] at hf
  rcases List.mem_filterMap.1 hf with ⟨ids, -, hids⟩
  split at hids
  · rw [← Option.some.inj hids]
    rfl
  · cases hids

/-! ## Rules that end in a numeral error -/

theorem plain_checkArgument {method : String} {p : Parameter} {found : List Finding}
    (h : checkArgument i method p = .ok found) : Plain found := by
  intro f hf
  obtain ⟨_, _, _, -, -, rfl⟩ := (mem_checkArgument_iff h).1 hf
  exact ⟨rfl, rfl⟩

theorem plain_checkPort {node : String} {n : Nat} {p : PortMapping} {found : List Finding}
    (h : checkPort node n p = .ok found) : Plain found := by
  intro f hf
  obtain ⟨-, -, rfl⟩ := (mem_checkPort_iff h).1 hf
  exact ⟨rfl, rfl⟩

theorem exists_quiet_iff {x : Except Text.NumeralError (List Finding)}
    (h : ∀ found, x = .ok found → Plain found) :
    (∃ found, x = .ok found ∧ Quiet found) ↔ x = .ok [] := by
  constructor
  · rintro ⟨found, rfl, hq⟩
    rw [(h found rfl).quiet_iff.1 hq]
  · rintro rfl
    exact ⟨[], rfl, fun f hf => absurd hf List.not_mem_nil⟩

theorem checkMethods_quiet_iff :
    (∃ found, checkMethods r t i = .ok found ∧ Quiet found) ↔
      ∀ type ∈ r.find? i.resourceType,
        (∀ p ∈ type.builder.parameters, checkArgument i type.builder.name p = .ok []) ∧
          checkReference r t i = [] := by
  rw [checkMethods]
  cases hfind : r.find? i.resourceType with
  | none =>
    have hwarn : Quiet [.unknownType i.id i.resourceType] := by
      intro f hf
      rw [List.mem_singleton.1 hf]
      exact Severity.noConfusion
    simpa using hwarn
  | some type =>
    have hargs := Except.exists_mapM_ok_iff (f := checkArgument i type.builder.name) (P := Quiet)
      (l := type.builder.parameters)
    -- the traversal of the parameters ends well if every parameter does
    have hsplit : (∀ p ∈ type.builder.parameters, checkArgument i type.builder.name p = .ok []) ↔
        ∃ ys, type.builder.parameters.mapM (checkArgument i type.builder.name) = .ok ys ∧
          ∀ y ∈ ys, Quiet y := by
      rw [hargs]
      refine forall₂_congr fun p _ => ?_
      exact (exists_quiet_iff fun found h => plain_checkArgument h).symm
    simp only [Option.mem_some, forall_eq', hsplit, Except.bind_eq_ok_iff,
      ← plain_checkReference.quiet_iff]
    constructor
    · rintro ⟨found, ⟨ys, hys, hfound⟩, hq⟩
      rw [← Except.ok.inj hfound, quiet_append, quiet_flatten] at hq
      exact ⟨⟨ys, hys, hq.1⟩, hq.2⟩
    · rintro ⟨⟨ys, hys, hall⟩, hreference⟩
      exact ⟨_, ⟨ys, hys, rfl⟩, quiet_append.2 ⟨quiet_flatten.2 hall, hreference⟩⟩

theorem quiet_checkStorage : Quiet (checkStorage r i) := by
  rw [checkStorage, quiet_append]
  exact ⟨quiet_findWhen Severity.noConfusion, quiet_findWhen Severity.noConfusion⟩

theorem quiet_checkEnvKeys :
    Quiet (i.config.envVars.zipIdx.flatMap fun (v, n) => checkEnvKey i.id n v) := by
  rw [quiet_flatMap]
  rintro ⟨v, n⟩ -
  exact quiet_findWhen Severity.noConfusion

theorem checkConfiguration_quiet_iff :
    (∃ found, checkConfiguration r i = .ok found ∧ Quiet found) ↔
      ((r.categoryOf? i).isSome → ∀ e ∈ i.config.ports.zipIdx, checkPort i.id e.2 e.1 = .ok []) := by
  rw [checkConfiguration]
  by_cases hcategory : r.categoryOf? i = none
  · have hempty : Quiet [] := fun f hf => absurd hf List.not_mem_nil
    simpa [hcategory] using hempty
  · rcases Option.ne_none_iff_exists'.1 hcategory with ⟨category, hsome⟩
    have hports := Except.exists_mapM_ok_iff (f := fun e : PortMapping × Nat => checkPort i.id e.2 e.1)
      (P := Quiet) (l := i.config.ports.zipIdx)
    -- the other rules of this family only warn
    have hsplit : (∀ e ∈ i.config.ports.zipIdx, checkPort i.id e.2 e.1 = .ok []) ↔
        ∃ ys, i.config.ports.zipIdx.mapM (fun e => checkPort i.id e.2 e.1) = .ok ys ∧
          ∀ y ∈ ys, Quiet y := by
      rw [hports]
      refine forall₂_congr fun e _ => ?_
      exact (exists_quiet_iff fun found h => plain_checkPort h).symm
    simp only [hsome, Option.isNone_some, Bool.false_eq_true, if_false, Option.isSome_some,
      forall_const, hsplit, Except.bind_eq_ok_iff]
    constructor
    · rintro ⟨found, ⟨ys, hys, hfound⟩, hq⟩
      rw [← Except.ok.inj hfound, quiet_append, quiet_flatten] at hq
      exact ⟨ys, hys, hq.2⟩
    · rintro ⟨ys, hys, hall⟩
      refine ⟨_, ⟨ys, hys, rfl⟩, ?_⟩
      exact quiet_append.2 ⟨quiet_append.2 ⟨quiet_checkStorage, quiet_checkEnvKeys⟩, quiet_flatten.2 hall⟩

/-! ## Rules without errors -/

theorem quiet_checkArchitecture : Quiet (checkArchitecture r t) := by
  rw [checkArchitecture, quiet_append, quiet_append, quiet_flatMap]
  refine ⟨⟨?_, quiet_findWhen Severity.noConfusion⟩, quiet_findWhen Severity.noConfusion⟩
  intro i _
  rw [checkUse, quiet_append]
  exact ⟨quiet_findWhen Severity.noConfusion, quiet_findWhen Severity.noConfusion⟩

theorem quiet_checkSecurity : Quiet (checkSecurity i) := by
  rw [checkSecurity, quiet_append, quiet_flatMap]
  refine ⟨?_, quiet_findWhen Severity.noConfusion⟩
  rintro ⟨v, n⟩ -
  exact quiet_findWhen Severity.noConfusion

theorem quiet_checkPerformance : Quiet (checkPerformance r t i) :=
  quiet_findWhen Severity.noConfusion

/-! ## Cycles that are reported -/

theorem map_id_memberOf (ids : List String) : (ids.map (memberOf r t)).map Member.id = ids := by
  rw [List.map_map]
  conv_rhs => rw [← List.map_id ids]
  apply List.map_congr_left
  intro id _
  rw [Function.comp_apply, memberOf]
  cases hfind : t.find? id with
  | none => rfl
  | some j =>
    have hid : j.id = id := by simpa using List.find?_some hfind
    simpa [member] using hid

/-- The findings about cycles name cycles that the search finds. -/
theorem exists_of_mem_checkCycles {f : Finding} (hf : f ∈ checkCycles r t) :
    ∃ first rest, f = .cycle first rest ∧ f.related ∈ t.cycles := by
  rw [checkCycles, List.mem_filterMap] at hf
  rcases hf with ⟨cycle, hcycle, hf⟩
  have hids := map_id_memberOf (r := r) (t := t) cycle
  split at hf
  · rename_i first rest hmembers
    rw [hmembers] at hids
    refine ⟨first, rest, (Option.some.inj hf).symm, ?_⟩
    rw [← Option.some.inj hf, Finding.related, hids]
    exact hcycle
  · cases hf

/-- One finding for each cycle that the search finds. -/
theorem map_related_checkCycles : (checkCycles r t).map Finding.related = t.cycles := by
  rw [checkCycles, List.map_filterMap]
  conv_rhs => rw [← List.filterMap_some (l := t.cycles)]
  refine List.filterMap_congr fun cycle hcycle => ?_
  have hids := map_id_memberOf (r := r) (t := t) cycle
  split
  · rename_i first rest hmembers
    rw [hmembers] at hids
    rw [Option.map_some, Finding.related, hids]
  · rename_i hmembers
    rw [hmembers] at hids
    exact absurd hids.symm (Topology.isCycle_of_mem_cycles hcycle).ne_nil

theorem checkCycles_eq_nil_iff : checkCycles r t = [] ↔ t.cycles = [] := by
  rw [← map_related_checkCycles (r := r), List.map_eq_nil_iff]

end Validation

open Validation Catalog

variable {r : Registry} {t : Topology} {o : RenderOptions}

/-! ## Faultless topologies -/

structure Faultless (r : Registry) (t : Topology) : Prop where
  names : ∀ i ∈ t.instances, checkName r i = []
  databases : ∀ i ∈ t.instances, checkDatabaseName r i = []
  nameParameters : ∀ i ∈ t.instances, checkNameParameter r i = []
  duplicates : checkDuplicates t = []
  declared : checkVariables r t = []
  methods : ∀ i ∈ t.instances, ∀ type ∈ r.find? i.resourceType,
    (∀ p ∈ type.builder.parameters, checkArgument i type.builder.name p = .ok []) ∧
      checkReference r t i = []
  connections : ∀ c ∈ t.connections, checkConnection r t c = []
  ports : ∀ i ∈ t.instances, (r.categoryOf? i).isSome →
    ∀ e ∈ i.config.ports.zipIdx, checkPort i.id e.2 e.1 = .ok []
  acyclic : Acyclic t.links

/-- The rules that report errors, apart from cycles. All of them can be run. -/
def PassesRules (r : Registry) (t : Topology) : Prop :=
  (∀ i ∈ t.instances, checkName r i = [] ∧ checkDatabaseName r i = [] ∧ checkNameParameter r i = [] ∧
    (∀ type ∈ r.find? i.resourceType,
      (∀ p ∈ type.builder.parameters, checkArgument i type.builder.name p = .ok []) ∧
        checkReference r t i = []) ∧
      ((r.categoryOf? i).isSome → ∀ e ∈ i.config.ports.zipIdx, checkPort i.id e.2 e.1 = .ok [])) ∧
    checkDuplicates t = [] ∧ checkVariables r t = [] ∧ ∀ c ∈ t.connections, checkConnection r t c = []

instance (r : Registry) (t : Topology) : Decidable (PassesRules r t) := by
  unfold PassesRules
  infer_instance

theorem PassesRules.faultless (h : PassesRules r t) (hac : Acyclic t.links) : Faultless r t where
  names i hi := (h.1 i hi).1
  databases i hi := (h.1 i hi).2.1
  nameParameters i hi := (h.1 i hi).2.2.1
  duplicates := h.2.1
  declared := h.2.2.1
  methods i hi := (h.1 i hi).2.2.2.1
  connections := h.2.2.2
  ports i hi := (h.1 i hi).2.2.2.2
  acyclic := hac

theorem checkNaming_quiet_iff : Quiet (checkNaming r t) ↔
    (∀ i ∈ t.instances, checkName r i = []) ∧ (∀ i ∈ t.instances, checkDatabaseName r i = []) ∧
      (∀ i ∈ t.instances, checkNameParameter r i = []) ∧ checkDuplicates t = [] ∧
        checkVariables r t = [] := by
  rw [checkNaming, quiet_append, quiet_append, quiet_flatMap,
    plain_checkDuplicates.quiet_iff, plain_checkVariables.quiet_iff]
  simp only [quiet_append, plain_checkName.quiet_iff,
    plain_checkDatabaseName.quiet_iff, plain_checkNameParameter.quiet_iff]
  constructor
  · rintro ⟨⟨hinstances, hduplicates⟩, hvariables⟩
    exact ⟨fun i hi => (hinstances i hi).1.1, fun i hi => (hinstances i hi).1.2,
      fun i hi => (hinstances i hi).2, hduplicates, hvariables⟩
  · rintro ⟨hnames, hdatabases, hparameters, hduplicates, hvariables⟩
    exact ⟨⟨fun i hi => ⟨⟨hnames i hi, hdatabases i hi⟩, hparameters i hi⟩, hduplicates⟩, hvariables⟩

theorem validate_isValid_iff :
    (∃ v, t.validate r = .ok v ∧ v.isValid = true) ↔ Faultless r t := by
  have hmethods := Except.exists_mapM_ok_iff (f := checkMethods r t) (P := Quiet) (l := t.instances)
  have hconfig := Except.exists_mapM_ok_iff (f := checkConfiguration r) (P := Quiet) (l := t.instances)
  simp only [checkMethods_quiet_iff] at hmethods
  simp only [checkConfiguration_quiet_iff] at hconfig
  -- the report is quiet if each family is, and three families only warn or inform
  have hquiet : ∀ {methods configuration : List (List Finding)},
      Quiet (checkNaming r t ++ methods.flatten ++ t.connections.flatMap (checkConnection r t)
        ++ configuration.flatten ++ checkArchitecture r t ++ t.instances.flatMap checkSecurity
        ++ t.instances.flatMap (checkPerformance r t) ++ checkCycles r t) ↔
      Quiet (checkNaming r t) ∧ (∀ found ∈ methods, Quiet found) ∧
        (∀ c ∈ t.connections, checkConnection r t c = []) ∧ (∀ found ∈ configuration, Quiet found) ∧
          Acyclic t.links := by
    intro methods configuration
    simp only [quiet_append, quiet_flatMap, quiet_flatten, quiet_checkArchitecture,
      quiet_checkSecurity, quiet_checkPerformance, plain_checkConnection.quiet_iff,
      quiet_iff_eq_nil severity_checkCycles, checkCycles_eq_nil_iff, Topology.cycles_eq_nil_iff,
      and_true, implies_true, and_assoc]
  constructor
  · rintro ⟨v, hv, hvalid⟩
    rw [Topology.validate] at hv
    rcases Except.bind_eq_ok_iff.1 hv with ⟨methods, hm, hv⟩
    rcases Except.bind_eq_ok_iff.1 hv with ⟨configuration, hc, hv⟩
    rw [Report.isValid_iff, ← Except.ok.inj hv, hquiet] at hvalid
    rcases hvalid with ⟨hnaming, hmq, hconnections, hcq, hac⟩
    rcases checkNaming_quiet_iff.1 hnaming with ⟨hnames, hdatabases, hparameters, hduplicates, hvariables⟩
    exact ⟨hnames, hdatabases, hparameters, hduplicates, hvariables, hmethods.1 ⟨methods, hm, hmq⟩,
      hconnections, hconfig.1 ⟨configuration, hc, hcq⟩, hac⟩
  · intro h
    rcases hmethods.2 h.methods with ⟨methods, hm, hmq⟩
    rcases hconfig.2 h.ports with ⟨configuration, hc, hcq⟩
    have hnaming := checkNaming_quiet_iff.2
      ⟨h.names, h.databases, h.nameParameters, h.duplicates, h.declared⟩
    refine ⟨_, Except.bind_eq_ok_iff.2 ⟨methods, hm, Except.bind_eq_ok_iff.2 ⟨configuration, hc, rfl⟩⟩, ?_⟩
    rw [Report.isValid_iff, hquiet]
    exact ⟨hnaming, hmq, h.connections, hcq, h.acyclic⟩

/-! ## What is generated -/

/-- The indent and the numbers that the instances need can be written. -/
structure Writable (r : Registry) (o : RenderOptions) (t : Topology) (ordered : List ResourceInstance) :
    Prop where
  indent : ∃ s, Artifacts.indent? r o t ordered = .ok s
  numbers : ∀ n ∈ Artifacts.numbers r t ordered, n.natAbs < Text.numeralBound

instance (r : Registry) (o : RenderOptions) (t : Topology) (ordered : List ResourceInstance) :
    Decidable (Writable r o t ordered) :=
  match hindent : Artifacts.indent? r o t ordered with
  | .ok s => decidable_of_iff (∀ n ∈ Artifacts.numbers r t ordered, n.natAbs < Text.numeralBound)
      ⟨fun hnumbers => ⟨⟨s, hindent⟩, hnumbers⟩, Writable.numbers⟩
  | .error _ => isFalse fun h => h.indent.elim fun _ hok => nomatch hindent.symm.trans hok

theorem exists_writeNumeral_iff {numbers : List Int} :
    (∃ texts, numbers.mapM Text.writeNumeral = .ok texts) ↔
      ∀ n ∈ numbers, n.natAbs < Text.numeralBound := by
  have hmapM := Except.exists_mapM_ok_iff (f := Text.writeNumeral) (P := fun _ => True) (l := numbers)
  simp only [implies_true, and_true] at hmapM
  rw [hmapM]
  refine forall₂_congr fun n _ => ?_
  rw [Text.writeNumeral]
  by_cases h : n.natAbs < Text.numeralBound
  · simp [h]
  · simp [h]

theorem isBlocked_ofOrdered {ordered : List ResourceInstance} :
    (Artifacts.ofOrdered r o t ordered).isBlocked = false := rfl

/-- Errors block exactly the topologies that have one. -/
theorem isBlocked_blocked {v : Report} (h : v.isValid = false) :
    (Artifacts.blocked o (v.blocking.map Finding.message)).isBlocked = true := by
  rw [Report.isValid] at h
  simpa [Artifacts.isBlocked, Artifacts.blocked] using h

theorem compile_unblocked_iff {a : Artifacts} :
    t.compile r o = .ok a ∧ a.isBlocked = false ↔
      Faultless r t ∧ Writable r o t t.sequence.ordered ∧
        a = Artifacts.ofOrdered r o t t.sequence.ordered := by
  rw [Topology.compile, ← validate_isValid_iff]
  constructor
  · rintro ⟨hok, hblocked⟩
    rcases Except.bind_eq_ok_iff.1 hok with ⟨v, hv, hok⟩
    have hv := Except.mapError_eq_ok_iff.1 hv
    -- a report with errors would block
    cases hvalid : v.isValid with
    | false =>
      rw [hvalid] at hok
      rw [← Except.ok.inj hok, isBlocked_blocked hvalid] at hblocked
      cases hblocked
    | true =>
      rw [hvalid, if_pos rfl] at hok
      rcases Except.bind_eq_ok_iff.1 hok with ⟨s, hs, hok⟩
      rcases Except.bind_eq_ok_iff.1 hok with ⟨texts, htexts, hok⟩
      have hnumbers := exists_writeNumeral_iff.1 ⟨texts, Except.mapError_eq_ok_iff.1 htexts⟩
      exact ⟨⟨v, hv, hvalid⟩, ⟨⟨s, Except.mapError_eq_ok_iff.1 hs⟩, hnumbers⟩, (Except.ok.inj hok).symm⟩
  · rintro ⟨⟨v, hv, hvalid⟩, ⟨⟨s, hs⟩, hnumbers⟩, rfl⟩
    rcases exists_writeNumeral_iff.2 hnumbers with ⟨texts, htexts⟩
    refine ⟨?_, isBlocked_ofOrdered⟩
    simp only [hv, hs, htexts, hvalid, Except.mapError_ok, bind, Except.bind, if_true]
    rfl

/-- Whether a topology compiles can be computed, if it has no cycle. -/
theorem compile_of_passesRules (hrules : PassesRules r t) (hac : Acyclic t.links)
    (hwritable : Writable r o t t.sequence.ordered) :
    t.compile r o = .ok (.ofOrdered r o t t.sequence.ordered) :=
  (compile_unblocked_iff.2 ⟨hrules.faultless hac, hwritable, rfl⟩).1

end HostTopology
