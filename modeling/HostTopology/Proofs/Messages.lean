import HostTopology.Proofs.Characters
import HostTopology.Proofs.Faultless
import HostTopology.Proofs.Names
import HostTopology.Yaml.Token

/-!
# Messages — errors that are told in one line

Errors quote the texts of a topology: names, types, databases and ports. A line end in one of them is a
line end of the message. This file shows that there are no others:

* `IsOneLine` — texts without a line end, and topologies and registries with such texts only;
* `Concise` — findings whose errors are told in one line, for every family of rules;
* `isOneLine_of_mem_blocking` — the errors of a topology with texts of one line.
-/

namespace HostTopology

open Text Catalog

/-! ## Texts of one line -/

def IsOneLine (s : String) : Prop :=
  ∀ c ∈ s.toList, Yaml.isBreak c = false

instance (s : String) : Decidable (IsOneLine s) :=
  inferInstanceAs (Decidable (∀ c ∈ s.toList, Yaml.isBreak c = false))

theorem isAlphanum_toString (n : Nat) : ∀ c ∈ (toString n).toList, c.isAlphanum = true := by
  intro c hc
  have hdigits : c ∈ Nat.toDigits 10 n := by rwa [← Nat.toList_repr]
  rw [Char.isAlphanum, Nat.isDigit_of_mem_toDigits (by decide) (by decide) hdigits, Bool.or_true]

namespace IsOneLine

variable {s t : String}

theorem append (hs : IsOneLine s) (ht : IsOneLine t) : IsOneLine (s ++ t) := by
  rw [IsOneLine, String.toList_append]
  exact List.forall_mem_append.2 ⟨hs, ht⟩

theorem intercalate {sep : String} {parts : List String} (hsep : IsOneLine sep)
    (hparts : ∀ part ∈ parts, IsOneLine part) : IsOneLine (sep.intercalate parts) := by
  intro c hc
  rw [String.toList_intercalate] at hc
  rcases List.mem_of_mem_intercalate hc with hc | ⟨part, hpart, hc⟩
  · exact hsep c hc
  · rcases List.mem_map.1 hpart with ⟨text, htext, rfl⟩
    exact hparts text htext c hc

theorem of_isAlphanum (h : ∀ c ∈ s.toList, c.isAlphanum = true) : IsOneLine s := by
  intro c hc
  exact Text.of_isAlphanum (P := fun c => Yaml.isBreak c = false) (by decide) (h c hc)

theorem ofNat (n : Nat) : IsOneLine (toString n) :=
  of_isAlphanum (isAlphanum_toString n)

theorem ofInt (n : Int) : IsOneLine (toString n) := by
  cases n with
  | ofNat n => exact ofNat n
  | negSucc n => exact append (by decide : IsOneLine "-") (ofNat (n + 1))

end IsOneLine

/-- A parameter whose name and allowed values have one line each. -/
structure Catalog.Parameter.IsOneLine (p : Parameter) : Prop where
  name : HostTopology.IsOneLine p.name
  allowed : ∀ c ∈ p.constraints, ∀ values ∈ c.allowed, ∀ value ∈ values,
    HostTopology.IsOneLine value.display

structure Catalog.ResourceType.IsOneLine (type : ResourceType) : Prop where
  displayName : HostTopology.IsOneLine type.displayName
  parameters : ∀ p ∈ type.builder.parameters, p.IsOneLine

def Registry.IsOneLine (r : Registry) : Prop :=
  ∀ type ∈ r.types, type.IsOneLine

theorem standard_isOneLine : Registry.standard.IsOneLine := by
  have hall : ∀ type ∈ Registry.standard.types, IsOneLine type.displayName ∧
      ∀ p ∈ type.builder.parameters, IsOneLine p.name ∧
        ∀ c ∈ p.constraints, ∀ values ∈ c.allowed, ∀ value ∈ values, IsOneLine value.display := by
    decide +kernel
  intro type htype
  obtain ⟨hname, hparameters⟩ := hall type htype
  exact ⟨hname, fun p hp => ⟨(hparameters p hp).1, (hparameters p hp).2⟩⟩

/-- An instance with texts of one line, as far as errors quote them. -/
structure ResourceInstance.IsOneLine (i : ResourceInstance) : Prop where
  type : HostTopology.IsOneLine i.resourceType
  name : HostTopology.IsOneLine i.name
  database : ∀ database ∈ i.database, HostTopology.IsOneLine database
  ports : ∀ p ∈ i.config.ports, HostTopology.IsOneLine p.container

def Topology.IsOneLine (t : Topology) : Prop :=
  ∀ i ∈ t.instances, i.IsOneLine

namespace Validation

variable {r : Registry} {t : Topology} {i : ResourceInstance} {found : List Finding} {fault : ParameterFault}
  {p : Parameter} {v : Value} {label : String}

/-! ## Faults of parameters -/

theorem exists_of_mem_against {bound : Option Int} {fails : Int → Bool} {make : Int → ParameterFault}
    (h : fault ∈ against bound fails make) : ∃ n, fault = make n := by
  cases bound with
  | none => exact absurd h List.not_mem_nil
  | some n =>
    rw [against] at h
    split at h
    · exact ⟨n, List.mem_singleton.1 h⟩
    · exact absurd h List.not_mem_nil

theorem allowed_of_mem_check {c : Constraints} {allowed : List Literal} (h : .notAllowed allowed ∈ c.check v) :
    allowed ∈ c.allowed := by
  have hagainst : ∀ {bound : Option Int} {fails : Int → Bool} {make : Int → ParameterFault},
      (∀ n, make n ≠ .notAllowed allowed) → .notAllowed allowed ∉ against bound fails make :=
    fun hmake hmem => (exists_of_mem_against hmem).elim fun n hn => hmake n hn.symm
  -- the checks of a text or of a number have faults of their own
  have htext : ∀ s, .notAllowed allowed ∉ c.checkText s := by
    intro s
    simp only [Constraints.checkText, List.mem_append, not_or]
    refine ⟨⟨⟨hagainst nofun, hagainst nofun⟩, ?_⟩, ?_⟩
    · split <;> simp
    · split <;> simp
  have hnumber : ∀ x, .notAllowed allowed ∉ c.checkNumber x := by
    intro x
    simp only [Constraints.checkNumber, List.mem_append, not_or]
    exact ⟨hagainst nofun, hagainst nofun⟩
  unfold Constraints.check at h
  rcases List.mem_append.1 h with h | h
  · cases v with
    | text s => exact absurd h (htext s)
    | int n => exact absurd h (hnumber _)
    | float x => exact absurd h (hnumber _)
    | _ => exact absurd h List.not_mem_nil
  · rw [Constraints.checkAllowed] at h
    split at h
    · rename_i values hvalues
      split at h
      · exact absurd h List.not_mem_nil
      · obtain rfl := ParameterFault.notAllowed.inj (List.mem_singleton.1 h)
        exact hvalues
    · exact absurd h List.not_mem_nil

/-- The values that a message lists are those that the parameter allows. -/
theorem exists_constraints_of_mem_check {allowed : List Literal} (h : .notAllowed allowed ∈ p.check v) :
    ∃ c ∈ p.constraints, allowed ∈ c.allowed := by
  unfold Parameter.check at h
  split at h
  · cases List.mem_singleton.1 h
  · split at h
    · exact absurd h List.not_mem_nil
    · exact ⟨_, ‹_›, allowed_of_mem_check h⟩
    · exact absurd h List.not_mem_nil

theorem isOneLine_fault (hp : p.IsOneLine) (hlabel : IsOneLine label) (h : fault ∈ p.check v) :
    IsOneLine (fault.message label) := by
  cases fault with
  | notAllowed allowed =>
    obtain ⟨c, hc, hallowed⟩ := exists_constraints_of_mem_check h
    refine .append (.append hlabel (by decide)) (.intercalate (by decide) fun part hpart => ?_)
    rcases List.mem_map.1 hpart with ⟨value, hvalue, rfl⟩
    exact hp.allowed c hc allowed hallowed value hvalue
  | missing | format | notIdentifier => exact .append hlabel (by decide)
  | tooShort n | tooLong n => exact .append (.append (.append hlabel (by decide)) (.ofInt n)) (by decide)
  | tooSmall n | tooLarge n => exact .append (.append hlabel (by decide)) (.ofInt n)

/-! ## Rules about instances -/

/-- Findings whose errors are told in one line each. -/
def Concise (found : List Finding) : Prop :=
  ∀ f ∈ found, f.severity = .error → IsOneLine f.message

theorem Quiet.concise (h : Quiet found) : Concise found :=
  fun f hf herror => absurd herror (h f hf)

theorem concise_append {xs ys : List Finding} (hx : Concise xs) (hy : Concise ys) : Concise (xs ++ ys) :=
  List.forall_mem_append.2 ⟨hx, hy⟩

theorem concise_flatMap {α : Type} {l : List α} {g : α → List Finding} (h : ∀ x ∈ l, Concise (g x)) :
    Concise (l.flatMap g) :=
  List.forall_mem_flatMap.2 h

theorem concise_flatten {l : List (List Finding)} (h : ∀ found ∈ l, Concise found) : Concise l.flatten :=
  List.forall_mem_flatten.2 h

theorem concise_findWhen {q : Bool} {f : Finding} (h : IsOneLine f.message) : Concise (findWhen q f) := by
  intro g hg _
  rw [(mem_findWhen.1 hg).2]
  exact h

theorem isOneLine_quote {s : String} (h : IsOneLine s) : IsOneLine (quote s) :=
  .append (.append (by decide) h) (by decide)

section Instances

variable (hr : r.IsOneLine) (hi : i.IsOneLine)

include hr hi in
theorem isOneLine_labelOf : IsOneLine (r.labelOf i) := by
  rw [Registry.labelOf, Registry.displayName]
  cases hfind : r.find? i.resourceType with
  | none => exact hi.type
  | some type => exact (hr type (Registry.mem_types hfind).1).displayName

include hr hi in
theorem isOneLine_titleOf : IsOneLine (r.titleOf i) := by
  rw [Registry.titleOf]
  split
  · exact isOneLine_labelOf hr hi
  · exact hi.name

include hi in
theorem isOneLine_databaseOf? {database : String} (h : r.databaseOf? i = some database) :
    IsOneLine database := by
  rw [Registry.databaseOf?] at h
  split at h
  · exact hi.database database (Option.filter_eq_some_iff.1 h).1
  · cases h

include hr hi in
theorem concise_checkName : Concise (checkName r i) := by
  intro f hf _
  rcases mem_checkName_iff.1 hf with ⟨-, rfl⟩ | ⟨-, -, rfl⟩
  · exact .append (isOneLine_labelOf hr hi) (by decide)
  · exact .append (isOneLine_quote hi.name) (by decide)

include hi in
theorem concise_checkDatabaseName : Concise (checkDatabaseName r i) := by
  intro f hf _
  obtain ⟨database, hdatabase, -, rfl⟩ := mem_checkDatabaseName_iff.1 hf
  exact .append (.append (by decide) (isOneLine_quote (isOneLine_databaseOf? hi hdatabase))) (by decide)

include hr in
theorem concise_checkNameParameter : Concise (checkNameParameter r i) := by
  intro f hf _
  obtain ⟨type, p, n, fault, htype, hp, -, hfault, rfl⟩ := mem_checkNameParameter_iff.1 hf
  have hparameter := (hr type (Registry.mem_types htype).1).parameters p (List.mem_of_find?_eq_some hp)
  exact isOneLine_fault hparameter (by decide) (List.mem_of_getElem? hfault)

include hr in
theorem concise_checkArgument {type : ResourceType} (htype : type ∈ r.types) (hp : p ∈ type.builder.parameters)
    {method : String} (h : checkArgument i method p = .ok found) : Concise found := by
  intro f hf _
  obtain ⟨value, n, fault, -, hfault, rfl⟩ := (mem_checkArgument_iff h).1 hf
  have hparameter := (hr type htype).parameters p hp
  exact isOneLine_fault hparameter hparameter.name (List.mem_of_getElem? hfault)

include hr hi in
theorem concise_checkMethods (h : checkMethods r t i = .ok found) : Concise found := by
  rcases checkMethods_cases h with ⟨-, rfl⟩ | ⟨type, parts, htype, hparts, rfl⟩
  · intro f hf herror
    rw [List.mem_singleton.1 hf] at herror
    cases herror
  · refine concise_append (concise_flatten fun found hfound => ?_) ?_
    · rcases Except.exists_of_mem_mapM hparts hfound with ⟨p, hp, hargument⟩
      exact concise_checkArgument hr (Registry.mem_types htype).1 hp hargument
    · exact concise_findWhen (.append (isOneLine_labelOf hr hi) (by decide))

include hi in
theorem concise_checkPort {q : PortMapping} (hq : q ∈ i.config.ports) {node : String} {n : Nat}
    (h : checkPort node n q = .ok found) : Concise found := by
  intro f hf _
  obtain ⟨-, -, rfl⟩ := (mem_checkPort_iff h).1 hf
  exact .append (by decide) (hi.ports q hq)

include hi in
theorem concise_checkConfiguration (h : checkConfiguration r i = .ok found) : Concise found := by
  rcases checkConfiguration_cases h with ⟨-, rfl⟩ | ⟨_, ports, -, hports, rfl⟩
  · exact fun f hf => absurd hf List.not_mem_nil
  · refine concise_append (quiet_append.2 ⟨quiet_checkStorage, quiet_checkEnvKeys⟩).concise
      (concise_flatten fun found hfound => ?_)
    rcases Except.exists_of_mem_mapM hports hfound with ⟨⟨q, n⟩, hq, hport⟩
    exact concise_checkPort hi (List.fst_mem_of_mem_zipIdx hq) hport

end Instances

/-! ## Rules about the whole topology -/

section Topologies

variable (hr : r.IsOneLine) (ht : t.IsOneLine)

include ht in
theorem concise_checkDuplicates : Concise (checkDuplicates t) := by
  intro f hf _
  obtain ⟨name, first, second, others, hgroup, rfl⟩ := mem_checkDuplicates_iff.1 hf
  rcases mem_groupBy.1 hgroup with ⟨hkey, -⟩
  rcases List.mem_map.1 hkey with ⟨i, hi, rfl⟩
  exact .append (by decide) (isOneLine_quote (ht i (List.mem_filter.1 hi).1).name)

theorem isOneLine_of_mem_declaredFor (hi : i.IsOneLine) {d : Declared} (hd : d ∈ declaredFor r i) :
    IsOneLine d.name ∧ IsOneLine d.origin.label := by
  have hvariable : ∀ name, IsOneLine (Naming.variableName name) :=
    fun name => .of_isAlphanum (Naming.isVariable_variableName name).isAlphanum
  rcases (mem_declaredFor_iff.1 hd).2 with rfl | ⟨database, hdatabase, rfl⟩
  · exact ⟨hvariable i.name, isOneLine_quote hi.name⟩
  · exact ⟨hvariable database, .append (by decide) (isOneLine_quote (isOneLine_databaseOf? hi hdatabase))⟩

include ht in
theorem concise_checkVariables : Concise (checkVariables r t) := by
  have hdeclared : ∀ d ∈ t.instances.flatMap (declaredFor r),
      IsOneLine d.name ∧ IsOneLine d.origin.label := by
    intro d hd
    rcases List.mem_flatMap.1 hd with ⟨i, hi, hd⟩
    exact isOneLine_of_mem_declaredFor (ht i hi) hd
  intro f hf _
  obtain ⟨name, first, others, hgroup, -, rfl⟩ := mem_checkVariables_iff.1 hf
  rcases mem_groupBy.1 hgroup with ⟨hkey, hentries⟩
  rcases List.mem_map.1 hkey with ⟨d, hd, rfl⟩
  -- the labels of a group are those of variables that are declared
  have hlabels : ∀ label ∈ ((first :: others).map Declared.origin).map Origin.label, IsOneLine label := by
    intro label hlabel
    rcases List.mem_map.1 hlabel with ⟨origin, horigin, rfl⟩
    rcases List.mem_map.1 horigin with ⟨entry, hentry, rfl⟩
    rw [hentries] at hentry
    exact (hdeclared entry (List.mem_filter.1 hentry).1).2
  have hname := isOneLine_quote (hdeclared d hd).1
  exact .append (.append (.append (by decide) hname) (by decide)) (.intercalate (by decide) hlabels)

include hr ht in
theorem concise_checkConnection {c : Connection} : Concise (checkConnection r t c) := by
  have hlabel : ∀ {id : String} {i : ResourceInstance}, t.find? id = some i → IsOneLine (r.labelOf i) :=
    fun hfind => isOneLine_labelOf hr (ht _ (List.mem_of_find?_eq_some hfind))
  intro f hf _
  rcases mem_checkConnection_iff.1 hf with ⟨source, target, hsource, htarget, ⟨-, rfl⟩ | ⟨-, rfl⟩⟩ | ⟨-, rfl⟩
  · exact .append (.append (.append (by decide) (hlabel hsource)) (by decide)) (hlabel htarget)
  · exact (by decide : IsOneLine "A resource cannot reference itself")
  · exact (by decide : IsOneLine "Connection references a non-existent node")

include hr ht in
theorem concise_checkCycles : Concise (checkCycles r t) := by
  have hmember : ∀ cycle ∈ t.cycles, ∀ m ∈ cycle.map (memberOf r t), IsOneLine m.title := by
    intro cycle hcycle m hm
    rcases List.mem_map.1 hm with ⟨id, hid, rfl⟩
    -- ids on a cycle are those of instances, so that none of them is shown instead of a title
    have hmem := t.links_joins.mem_of_onCycle ((Topology.isCycle_of_mem_cycles hcycle).onCycle hid)
    cases hfind : t.find? id with
    | none =>
      rcases List.mem_map.1 hmem with ⟨i, hi, rfl⟩
      have hne := List.find?_eq_none.1 hfind i hi
      exact absurd (decide_eq_true rfl) hne
    | some i =>
      rw [memberOf, hfind]
      exact isOneLine_titleOf hr (ht i (List.mem_of_find?_eq_some hfind))
  intro f hf _
  rw [checkCycles] at hf
  rcases List.mem_filterMap.1 hf with ⟨cycle, hcycle, hsome⟩
  split at hsome
  · rename_i first rest hmembers
    obtain rfl := Option.some.inj hsome
    refine .append (by decide) (.intercalate (by decide) fun title htitle => ?_)
    rcases List.mem_map.1 htitle with ⟨m, hm, rfl⟩
    have hmem : m ∈ first :: rest := by
      rcases List.mem_append.1 hm with hm | hm
      · exact hm
      · exact List.mem_singleton.1 hm ▸ List.mem_cons_self
    exact hmember cycle hcycle m (hmembers ▸ hmem)
  · cases hsome

include hr ht in
/-- Where all texts have one line, so have the errors about them. -/
theorem isOneLine_of_mem_blocking {v : Report} (hv : t.validate r = .ok v) :
    ∀ f ∈ v.blocking, IsOneLine f.message := by
  rw [Topology.validate] at hv
  rcases Except.bind_eq_ok_iff.1 hv with ⟨methods, hm, hv⟩
  rcases Except.bind_eq_ok_iff.1 hv with ⟨configuration, hc, hv⟩
  obtain rfl := Except.ok.inj hv
  have hnaming : Concise (checkNaming r t) := by
    refine concise_append (concise_append (concise_flatMap fun i hi => ?_) (concise_checkDuplicates ht))
      (concise_checkVariables ht)
    exact concise_append (concise_append (concise_checkName hr (ht i hi)) (concise_checkDatabaseName (ht i hi)))
      (concise_checkNameParameter hr)
  have hmethods : Concise methods.flatten := concise_flatten fun found hfound =>
    (Except.exists_of_mem_mapM hm hfound).elim fun i hi => concise_checkMethods hr (ht i hi.1) hi.2
  have hconfiguration : Concise configuration.flatten := concise_flatten fun found hfound =>
    (Except.exists_of_mem_mapM hc hfound).elim fun i hi => concise_checkConfiguration (ht i hi.1) hi.2
  have hconnections : Concise (t.connections.flatMap (checkConnection r t)) :=
    concise_flatMap fun c _ => concise_checkConnection hr ht
  have hsecurity : Concise (t.instances.flatMap checkSecurity) :=
    concise_flatMap fun i _ => quiet_checkSecurity.concise
  have hperformance : Concise (t.instances.flatMap (checkPerformance r t)) :=
    concise_flatMap fun i _ => quiet_checkPerformance.concise
  have hall := concise_append (concise_append (concise_append (concise_append (concise_append (concise_append
    (concise_append hnaming hmethods) hconnections) hconfiguration) (quiet_checkArchitecture (r := r) (t := t)).concise)
    hsecurity) hperformance) (concise_checkCycles hr ht)
  intro f hf
  obtain ⟨hmem, herror⟩ := List.mem_filter.1 hf
  exact hall f hmem (of_decide_eq_true herror)

end Topologies


end Validation
end HostTopology
