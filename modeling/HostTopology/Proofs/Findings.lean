import HostTopology.Proofs.Results
import HostTopology.Validation.Rules
import Mathlib.Data.List.Basic

/-!
# Findings — what each rule of validation finds, and when

Rules are lists that are put together in different ways. Most of what is said about findings holds of each of
them, so that there is one description for every rule:

* `mem_checkName_iff`, `mem_checkDatabaseName_iff`, `mem_checkNameParameter_iff` — names of one instance;
* `mem_checkDuplicates_iff`, `mem_declaredFor_iff`, `mem_checkVariables_iff` — names of several instances;
* `checkMethods_cases`, `mem_checkArgument_iff`, `mem_checkReference_iff` — methods and their parameters;
* `mem_checkConnection_iff` — connections;
* `checkConfiguration_cases`, `mem_checkPort_iff`, `mem_checkEnvKey_iff` — configurations.

Rules about ports can end without findings. What they find is described where they do not.
-/

namespace HostTopology
namespace Validation

open Catalog

variable {r : Registry} {t : Topology} {i : ResourceInstance} {c : Connection} {f g : Finding} {found : List Finding}
  {p : Bool}

theorem mem_findWhen : g ∈ findWhen p f ↔ p = true ∧ g = f := by
  cases p <;> simp [findWhen]

theorem findWhen_eq_nil_iff : findWhen p f = [] ↔ p = false := by
  cases p <;> simp [findWhen]

/-- Findings at the positions of what they are about. -/
theorem mem_map_zipIdx_iff {α : Type} {l : List α} {m : α → Nat → Finding} :
    f ∈ l.zipIdx.map (fun e => m e.1 e.2) ↔ ∃ n a, l[n]? = some a ∧ f = m a n := by
  rw [List.mem_map]
  constructor
  · rintro ⟨⟨a, n⟩, hmem, rfl⟩
    exact ⟨n, a, List.mem_zipIdx_iff_getElem?.1 hmem, rfl⟩
  · rintro ⟨n, a, hget, rfl⟩
    exact ⟨(a, n), List.mem_zipIdx_iff_getElem?.2 hget, rfl⟩

/-! ## Names -/

theorem mem_checkName_iff : f ∈ checkName r i ↔
    isBlankText i.name = true ∧ f = .missingName i.id (r.labelOf i) ∨
      isBlankText i.name = false ∧ isIdentifier i.name = false ∧ f = .invalidName i.id i.name := by
  rw [checkName]
  cases isBlankText i.name with
  | true => simp
  | false => simp [mem_findWhen]

theorem mem_checkDatabaseName_iff : f ∈ checkDatabaseName r i ↔ ∃ database,
    r.databaseOf? i = some database ∧ isIdentifier database = false ∧ f = .invalidDatabase i.id database := by
  rw [checkDatabaseName]
  cases r.databaseOf? i with
  | none => simp
  | some database => simp [mem_findWhen]

theorem mem_checkNameParameter_iff : f ∈ checkNameParameter r i ↔ ∃ type p n fault,
    r.find? i.resourceType = some type ∧ type.builder.parameter? "name" = some p ∧ i.name ≠ "" ∧
      (p.check (.text i.name))[n]? = some fault ∧ f = .nameFault i.id type.builder.name n fault := by
  rw [checkNameParameter]
  cases r.find? i.resourceType with
  | none => simp
  | some type =>
    cases hp : type.builder.parameter? "name" with
    | none => simp [hp]
    | some p =>
      by_cases hname : i.name = ""
      · simp [hp, hname]
      · have hfaults := mem_map_zipIdx_iff (f := f) (l := p.check (.text i.name))
          (m := fun fault n => .nameFault i.id type.builder.name n fault)
        simpa [hp, hname] using hfaults

/-- Instances with the same name that is not blank. -/
theorem mem_checkDuplicates_iff : f ∈ checkDuplicates t ↔ ∃ name first second others,
    (name, first :: second :: others) ∈
        groupBy ResourceInstance.name (t.instances.filter fun i => !isBlankText i.name) ∧
      f = .duplicateName name first.id ((first :: second :: others).map ResourceInstance.id) := by
  rw [checkDuplicates, List.mem_filterMap]
  constructor
  · rintro ⟨⟨name, group⟩, hgroup, hsome⟩
    split at hsome
    · rename_i heq
      obtain ⟨rfl, rfl⟩ := Prod.mk.inj heq
      exact ⟨_, _, _, _, hgroup, (Option.some.inj hsome).symm⟩
    · cases hsome
  · rintro ⟨name, first, second, others, hgroup, rfl⟩
    exact ⟨_, hgroup, rfl⟩

theorem mem_declaredFor_iff {d : Declared} : d ∈ declaredFor r i ↔
    (isBlankText i.name = false ∧ (r.find? i.resourceType).isSome) ∧
      (d = ⟨Naming.variableName i.name, i.id, .resource i.name⟩ ∨
        ∃ database, r.databaseOf? i = some database ∧
          d = ⟨Naming.variableName database, i.id, .database database⟩) := by
  rw [declaredFor]
  cases isBlankText i.name with
  | true => simp
  | false =>
    cases r.find? i.resourceType with
    | none => simp
    | some type =>
      cases r.databaseOf? i with
      | none => simp
      | some database => simp

theorem mem_checkVariables_iff : f ∈ checkVariables r t ↔ ∃ name first others,
    (name, first :: others) ∈ groupBy Declared.name (t.instances.flatMap (declaredFor r)) ∧
      collides ((first :: others).map Declared.origin) = true ∧
        f = .variableCollision name first.node ((first :: others).map Declared.origin)
          ((first :: others).map Declared.node).eraseDups := by
  rw [checkVariables, List.mem_flatMap]
  constructor
  · rintro ⟨⟨name, entries⟩, hgroup, hf⟩
    cases entries with
    | nil => cases hf
    | cons first others =>
      obtain ⟨hcollides, hf⟩ := mem_findWhen.1 hf
      exact ⟨name, first, others, hgroup, hcollides, hf⟩
  · rintro ⟨name, first, others, hgroup, hcollides, hf⟩
    exact ⟨_, hgroup, mem_findWhen.2 ⟨hcollides, hf⟩⟩

/-! ## Methods -/

theorem mem_checkReference_iff : f ∈ checkReference r t i ↔ t.incoming i.id ≠ [] ∧
    r.supportsChaining i.resourceType "WithReference" = false ∧
      f = .noReference i.id (r.labelOf i) i.resourceType := by
  rw [checkReference, mem_findWhen]
  simp [and_assoc]

theorem mem_checkArgument_iff {method : String} {p : Parameter} (h : checkArgument i method p = .ok found) :
    f ∈ found ↔ ∃ value n fault, builderArgument i p.name = .ok value ∧ (p.check value)[n]? = some fault ∧
      f = .argumentFault i.id method p n fault := by
  obtain ⟨value, hvalue, hfound⟩ := Except.bind_eq_ok_iff.1 h
  obtain rfl := Except.ok.inj hfound
  have hfaults := mem_map_zipIdx_iff (f := f) (l := p.check value)
    (m := fun fault n => .argumentFault i.id method p n fault)
  simpa [hvalue] using hfaults

/-- Of a type that is not known there is no method to look at. -/
theorem checkMethods_cases (h : checkMethods r t i = .ok found) :
    r.find? i.resourceType = none ∧ found = [.unknownType i.id i.resourceType] ∨
      ∃ type parts, r.find? i.resourceType = some type ∧
        type.builder.parameters.mapM (checkArgument i type.builder.name) = .ok parts ∧
          found = parts.flatten ++ checkReference r t i := by
  rw [checkMethods] at h
  cases htype : r.find? i.resourceType with
  | none =>
    rw [htype] at h
    exact Or.inl ⟨rfl, (Except.ok.inj h).symm⟩
  | some type =>
    rw [htype] at h
    obtain ⟨parts, hparts, hfound⟩ := Except.bind_eq_ok_iff.1 h
    exact Or.inr ⟨type, parts, rfl, hparts, (Except.ok.inj hfound).symm⟩

/-! ## Connections -/

theorem mem_checkConnection_iff : f ∈ checkConnection r t c ↔
    (∃ source target, t.find? c.source = some source ∧ t.find? c.target = some target ∧
      (r.isConnectionValid source.resourceType target.resourceType = false ∧
          f = .incompatible c (r.labelOf source) (r.labelOf target) source.resourceType target.resourceType ∨
        c.source = c.target ∧ f = .selfConnection c.id c.source)) ∨
      (t.find? c.source = none ∨ t.find? c.target = none) ∧ f = .orphan c.id := by
  rw [checkConnection]
  cases t.find? c.source with
  | none => simp
  | some source =>
    cases t.find? c.target with
    | none => simp
    | some target => simp [mem_findWhen]

/-! ## Configuration -/

theorem mem_checkPort_iff {node : String} {n : Nat} {q : PortMapping} (h : checkPort node n q = .ok found) :
    f ∈ found ↔ q.container ≠ "" ∧ isPort q.container = .ok false ∧ f = .port node n q.container := by
  rw [checkPort] at h
  split at h
  · rename_i hempty
    obtain rfl := Except.ok.inj h
    simp [hempty]
  · rename_i hgiven
    obtain ⟨isValid, hvalid, hfound⟩ := Except.bind_eq_ok_iff.1 h
    obtain rfl := Except.ok.inj hfound
    rw [mem_findWhen, hvalid]
    simp [hgiven]

theorem mem_checkEnvKey_iff {node : String} {n : Nat} {v : EnvVar} : f ∈ checkEnvKey node n v ↔
    v.key ≠ "" ∧ Pattern.envKey.accepts v.key = false ∧ f = .envKey node n v.key := by
  rw [checkEnvKey, mem_findWhen]
  simp [and_assoc]

/-- Where there is no category, nothing is looked at. -/
theorem checkConfiguration_cases (h : checkConfiguration r i = .ok found) :
    r.categoryOf? i = none ∧ found = [] ∨
      ∃ category ports, r.categoryOf? i = some category ∧
        i.config.ports.zipIdx.mapM (fun e => checkPort i.id e.2 e.1) = .ok ports ∧
          found = checkStorage r i ++ i.config.envVars.zipIdx.flatMap (fun e => checkEnvKey i.id e.2 e.1)
            ++ ports.flatten := by
  rw [checkConfiguration] at h
  cases hcategory : r.categoryOf? i with
  | none =>
    rw [hcategory] at h
    exact Or.inl ⟨rfl, (Except.ok.inj h).symm⟩
  | some category =>
    rw [hcategory] at h
    obtain ⟨ports, hports, hfound⟩ := Except.bind_eq_ok_iff.1 h
    exact Or.inr ⟨category, ports, rfl, hports, (Except.ok.inj hfound).symm⟩

end Validation
end HostTopology
