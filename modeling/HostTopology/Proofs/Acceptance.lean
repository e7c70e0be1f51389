import HostTopology.Proofs.Characters
import HostTopology.Proofs.Names
import HostTopology.Proofs.Order

/-!
# Acceptance — the topologies that validation accepts

Validation looks for faults, and one fault can be found by several families of rules. `WellFormed`
says instead what a topology has to be like, each demand once and in terms of the topology alone:

* `WellFormed` — names, variables, databases, connections, ports and cycles;
* `HasReadablePorts`, `HasNumerals` — rows of digits in the ports, and in those of known types, are numerals
  that are not too long; validation breaks off where they are not (`exists_validate_iff`);
* `parameter_cases` — the parameters that the methods of the catalog take, and what each asks for;
* `isValid_iff_wellFormed` — validation accepts exactly the well-formed topologies.
-/

namespace HostTopology

/-! ## Images -/

namespace Catalog.Pattern

open Text Naming

theorem isImageSeparator_of_isImageChar {c : Char} (h : isImageChar c = true) : isImageSeparator c = false := by
  rw [Bool.eq_false_iff]
  intro hsep
  simp only [isImageSeparator, Bool.or_eq_true, decide_eq_true_eq] at hsep
  rcases hsep with ((rfl | rfl) | rfl) | rfl
  all_goals exact absurd h (by decide)

theorem isImage_intercalate {words : List (List Char)} (hne : words ≠ [])
    (h : ∀ w ∈ words, w ≠ [] ∧ ∀ c ∈ w, isImageChar c = true) : isImage (['_'].intercalate words) = true := by
  have hsplit : splitAll isImageSeparator (['_'].intercalate words) = words :=
    splitAll_intercalate (by decide) hne fun w hw c hc => isImageSeparator_of_isImageChar ((h w hw).2 c hc)
  simpa [isImage, hsplit, isImageChar] using h

/-- The name of an image is one, whatever it is made from. -/
theorem isImage_containerImageName (name : String) : isImage (containerImageName name).toList = true := by
  have hwords : ∀ w ∈ imageWords name.toList, w ≠ [] ∧ ∀ c ∈ w, isImageChar c = true := by
    intro w hw
    rcases List.mem_filter.1 hw with ⟨hpiece, hne⟩
    refine ⟨by simpa using hne, ?_⟩
    intro c hc
    simpa using isSep_of_mem_splitAll hpiece hc
  rw [containerImageName, orElse]
  split
  · decide
  · rename_i hjoined
    have hne : imageWords name.toList ≠ [] := by
      intro hnil
      exact hjoined (by simp [hnil])
    simpa using isImage_intercalate hne hwords

theorem toList_image (name : String) : ("myregistry/" ++ containerImageName name).toList =
    "myregistry".toList ++ '/' :: (containerImageName name).toList := by
  have hslash : "myregistry/".toList = "myregistry".toList ++ ['/'] := rfl
  simp [hslash]

theorem accepts_image (name : String) :
    Pattern.image.accepts ("myregistry/" ++ containerImageName name) = true := by
  have hbreak : '\n' ∉ "myregistry".toList ++ '/' :: (containerImageName name).toList := by
    have hlead : '\n' ∉ "myregistry".toList ∧ '\n' ≠ '/' := by decide
    have hname : '\n' ∉ (containerImageName name).toList := by
      intro hmem
      rcases mem_containerImageName hmem with h | h
      all_goals exact absurd h (by decide)
    simp [hlead, hname]
  -- the first separator is the slash, so the registry is a part of its own
  have hsplit : splitAll isImageSeparator ("myregistry".toList ++ '/' :: (containerImageName name).toList) =
      "myregistry".toList :: splitAll isImageSeparator (containerImageName name).toList :=
    splitAll_append_cons (by decide) (by decide)
  have hregistry : (!("myregistry".toList).isEmpty && "myregistry".toList.all fun c => c.isLower || c.isDigit) =
      true := by decide
  calc Pattern.image.accepts ("myregistry/" ++ containerImageName name)
      = isImage ("myregistry".toList ++ '/' :: (containerImageName name).toList) := by
        simp only [accepts, toList_image, dropFinalBreak_of_not_mem hbreak]
    _ = isImage (containerImageName name).toList := by
        simp only [isImage, hsplit, List.all_cons, hregistry, Bool.true_and]
    _ = true := isImage_containerImageName name

end Catalog.Pattern

/-! ## Well-formed topologies -/

/-- The most characters that the name of a resource can have, if its type sets a limit. -/
def Catalog.ResourceType.nameLimit? (type : Catalog.ResourceType) : Option Int :=
  (type.builder.parameter? "name").bind fun p => p.constraints.bind Catalog.Constraints.maxLength

/-- Decimal digits, of whatever script, for a number between 1 and 65535. -/
def IsPortNumber (container : String) : Prop :=
  ∃ n, Text.decimalNumeral? container.toList = some n ∧ 1 ≤ n ∧ n ≤ 65535

/-- A row of digits is written in decimal digits, and in not too many. -/
def IsReadablePort (container : String) : Prop :=
  Text.allDigits container.toList = true →
    (∀ c ∈ container.toList, Text.isDecimal c = true) ∧ container.toList.length ≤ Text.numeralLimit

def Topology.HasReadablePorts (t : Topology) : Prop :=
  ∀ i ∈ t.instances, ∀ p ∈ i.config.ports, IsReadablePort p.container

/-- Only the ports of instances of known types are looked at. -/
def Topology.HasNumerals (r : Registry) (t : Topology) : Prop :=
  ∀ i ∈ t.instances, (r.find? i.resourceType).isSome → ∀ p ∈ i.config.ports, IsReadablePort p.container

/-- The names that variables are made from: those of the instances of known types, and of their logical
databases. -/
def Registry.namesOf (r : Registry) (t : Topology) : List String :=
  (t.instances.filter fun i => (r.find? i.resourceType).isSome).flatMap fun i =>
    i.name :: (r.databaseOf? i).toList

structure WellFormed (r : Registry) (t : Topology) : Prop where
  names : ∀ i ∈ t.instances, Validation.isBlankText i.name = false ∧ isIdentifier i.name = true
  distinctNames : (t.instances.map ResourceInstance.name).Nodup
  lengths : ∀ i ∈ t.instances, ∀ type, r.find? i.resourceType = some type →
    ∀ limit, type.nameLimit? = some limit → i.name.length ≤ limit
  databases : ∀ i ∈ t.instances, ∀ database, i.database = some database → database ≠ "" →
    r.allowsDatabase i.resourceType = true → isIdentifier database = true
  distinctVariables : ((r.namesOf t).map Naming.variableName).Nodup
  connections : ∀ c ∈ t.connections, c.source ≠ c.target ∧
    ∃ source ∈ t.instances, ∃ target ∈ t.instances, source.id = c.source ∧ target.id = c.target ∧
      r.isConnectionValid source.resourceType target.resourceType = true
  ports : ∀ i ∈ t.instances, (r.find? i.resourceType).isSome →
    ∀ p ∈ i.config.ports, p.container ≠ "" → IsPortNumber p.container
  acyclic : Acyclic t.connections

open Validation Catalog

variable {r : Registry} {t : Topology} {i : ResourceInstance} {type : ResourceType} {p : Parameter} {s : String}

/-! ## Numbers of ports -/

theorem IsReadablePort.exists_numeral (h : IsReadablePort s) (hdigits : Text.allDigits s.toList = true) :
    ∃ n, Text.readNumeral s.toList = .ok n := by
  rcases h hdigits with ⟨hdecimal, hlength⟩
  rcases Text.exists_decimalNumeral?_iff.2 hdecimal with ⟨n, hn⟩
  exact ⟨n, Text.readNumeral_eq_ok_iff.2 ⟨hn, hlength⟩⟩

theorem IsReadablePort.exists_isPort (h : IsReadablePort s) : ∃ b, isPort s = .ok b := by
  by_cases hdigits : Text.allDigits s.toList = true
  · rcases h.exists_numeral hdigits with ⟨n, hn⟩
    exact ⟨_, by rw [isPort, if_pos hdigits, hn, Except.map]⟩
  · exact ⟨false, by rw [isPort, if_neg hdigits]⟩

theorem exists_isPort_iff : (∃ b, isPort s = .ok b) ↔ IsReadablePort s := by
  refine ⟨fun h hdigits => ?_, IsReadablePort.exists_isPort⟩
  rcases h with ⟨b, hb⟩
  rw [isPort, if_pos hdigits] at hb
  cases hread : Text.readNumeral s.toList with
  | error e => simp [hread, Except.map] at hb
  | ok n =>
    obtain ⟨hn, hlength⟩ := Text.readNumeral_eq_ok_iff.1 hread
    exact ⟨Text.exists_decimalNumeral?_iff.1 ⟨n, hn⟩, hlength⟩

theorem IsReadablePort.exists_portValue (h : IsReadablePort s) : ∃ v, portValue s = .ok v := by
  by_cases hdigits : Text.allDigits s.toList = true
  · rcases h.exists_numeral hdigits with ⟨n, hn⟩
    exact ⟨.int n, by rw [portValue, if_pos hdigits, hn]; rfl⟩
  · exact ⟨_, by rw [portValue, if_neg hdigits]⟩

theorem isPortNumber_of_isPort (h : isPort s = .ok true) : IsPortNumber s := by
  rw [isPort] at h
  split at h
  · cases hread : Text.readNumeral s.toList with
    | error e => simp [hread, Except.map] at h
    | ok n =>
      have hbounds : 1 ≤ n ∧ n ≤ 65535 := by simpa [hread, Except.map] using h
      exact ⟨n, (Text.readNumeral_eq_ok_iff.1 hread).1, hbounds⟩
  · cases h

theorem IsPortNumber.allDigits (h : IsPortNumber s) : Text.allDigits s.toList = true := by
  rcases h with ⟨n, hn, hpos, -⟩
  exact Text.allDigits_of_decimalNumeral? hn hpos

theorem IsPortNumber.exists_readNumeral (h : IsPortNumber s) (hreadable : IsReadablePort s) :
    ∃ n, Text.readNumeral s.toList = .ok n ∧ 1 ≤ n ∧ n ≤ 65535 := by
  have hlength := (hreadable h.allDigits).2
  rcases h with ⟨n, hn, hbounds⟩
  exact ⟨n, Text.readNumeral_eq_ok_iff.2 ⟨hn, hlength⟩, hbounds⟩

theorem IsPortNumber.isPort (h : IsPortNumber s) (hreadable : IsReadablePort s) :
    Validation.isPort s = .ok true := by
  rcases h.exists_readNumeral hreadable with ⟨n, hn, hbounds⟩
  simp [Validation.isPort, h.allDigits, hn, Except.map, hbounds]

theorem checkPort_eq_nil_iff {node : String} {n : Nat} {q : PortMapping} :
    checkPort node n q = .ok [] ↔ q.container = "" ∨ isPort q.container = .ok true := by
  rw [checkPort]
  by_cases hempty : q.container = ""
  · simp [hempty, pure, Except.pure]
  · cases isPort q.container with
    | error e => simp [hempty, bind, Except.bind]
    | ok b => cases b <;> simp [hempty, bind, Except.bind, pure, Except.pure, findWhen]

/-! ## Reports -/

theorem builderArgument_port : builderArgument i "port" =
    match i.config.ports with
    | [] => .ok .null
    | q :: _ => portValue q.container := by
  simp only [builderArgument]
  rfl

theorem exists_builderArgument (h : ∀ q ∈ i.config.ports, IsReadablePort q.container) (parameter : String) :
    ∃ value, builderArgument i parameter = .ok value := by
  by_cases hport : parameter = "port"
  · subst hport
    rw [builderArgument_port]
    cases hports : i.config.ports with
    | nil => exact ⟨_, rfl⟩
    | cons q others => exact (h q (hports ▸ List.mem_cons_self)).exists_portValue
  · simp only [builderArgument, hport, if_false]
    split_ifs
    all_goals exact ⟨_, rfl⟩

theorem exists_checkMethods (h : ∀ q ∈ i.config.ports, IsReadablePort q.container) :
    ∃ found, checkMethods r t i = .ok found := by
  rw [checkMethods]
  cases r.find? i.resourceType with
  | none => exact ⟨_, rfl⟩
  | some type =>
    have hargument : ∀ p ∈ type.builder.parameters, ∃ found, checkArgument i type.builder.name p = .ok found := by
      intro p _
      rcases exists_builderArgument h p.name with ⟨value, hvalue⟩
      exact ⟨_, by rw [checkArgument, hvalue]; rfl⟩
    rcases Except.exists_mapM_ok hargument with ⟨found, hfound⟩
    exact ⟨_, Except.bind_eq_ok_iff.2 ⟨found, hfound, rfl⟩⟩

theorem exists_checkPort_iff {node : String} {n : Nat} {q : PortMapping} :
    (∃ found, checkPort node n q = .ok found) ↔ IsReadablePort q.container := by
  rw [checkPort]
  by_cases hempty : q.container = ""
  · -- the empty text is no row of digits
    have hreadable : IsReadablePort q.container := fun hdigits => absurd hdigits (by rw [hempty]; decide)
    rw [if_pos hempty]
    exact ⟨fun _ => hreadable, fun _ => ⟨[], rfl⟩⟩
  · rw [if_neg hempty, ← exists_isPort_iff]
    constructor
    · rintro ⟨found, hfound⟩
      rcases Except.bind_eq_ok_iff.1 hfound with ⟨b, hb, -⟩
      exact ⟨b, hb⟩
    · rintro ⟨b, hb⟩
      exact ⟨_, Except.bind_eq_ok_iff.2 ⟨b, hb, rfl⟩⟩

theorem exists_checkConfiguration_iff : (∃ found, checkConfiguration r i = .ok found) ↔
    ((r.find? i.resourceType).isSome → ∀ q ∈ i.config.ports, IsReadablePort q.container) := by
  have hcategory : (r.categoryOf? i).isNone = (r.find? i.resourceType).isNone := by
    rw [Registry.categoryOf?, Registry.category?, Option.isNone_map]
  rw [checkConfiguration, hcategory]
  cases r.find? i.resourceType with
  | none =>
    refine ⟨fun _ hknown => ?_, fun _ => ⟨[], rfl⟩⟩
    cases hknown
  | some type =>
    constructor
    · rintro ⟨found, hfound⟩ - q hq
      rcases Except.bind_eq_ok_iff.1 hfound with ⟨ports, hports, -⟩
      -- every port has been checked at its position
      obtain ⟨n, hn, hget⟩ := List.mem_iff_getElem.1 hq
      have hmem : (q, n) ∈ i.config.ports.zipIdx := List.mem_zipIdx_iff_getElem?.2 (hget ▸ List.getElem?_eq_getElem hn)
      exact exists_checkPort_iff.1 (Except.exists_mapM_iff.1 ⟨ports, hports⟩ (q, n) hmem)
    · intro h
      have hports : ∀ e ∈ i.config.ports.zipIdx, ∃ found, checkPort i.id e.2 e.1 = .ok found :=
        fun e he => exists_checkPort_iff.2 (h rfl e.1 (List.fst_mem_of_mem_zipIdx he))
      rcases Except.exists_mapM_iff.2 hports with ⟨found, hfound⟩
      exact ⟨_, Except.bind_eq_ok_iff.2 ⟨found, hfound, rfl⟩⟩

/-- Only numbers in the ports of known types can keep validation from giving a report. -/
theorem exists_validate_iff : (∃ v, t.validate r = .ok v) ↔ t.HasNumerals r := by
  constructor
  · rintro ⟨v, hv⟩ i hi
    rcases Except.bind_eq_ok_iff.1 hv with ⟨methods, -, hv⟩
    rcases Except.bind_eq_ok_iff.1 hv with ⟨configuration, hconfiguration, -⟩
    exact exists_checkConfiguration_iff.1 (Except.exists_mapM_iff.1 ⟨configuration, hconfiguration⟩ i hi)
  · intro h
    -- the method of a known type looks at the first of the same ports
    have hmethods : ∀ i ∈ t.instances, ∃ found, checkMethods r t i = .ok found := by
      intro i hi
      cases htype : r.find? i.resourceType with
      | none => exact ⟨_, by rw [checkMethods, htype]⟩
      | some type => exact exists_checkMethods (h i hi (htype ▸ rfl))
    rcases Except.exists_mapM_iff.2 hmethods with ⟨methods, hm⟩
    rcases Except.exists_mapM_iff.2 fun i hi => exists_checkConfiguration_iff.2 (h i hi) with ⟨configuration, hc⟩
    exact ⟨_, Except.bind_eq_ok_iff.2 ⟨methods, hm, Except.bind_eq_ok_iff.2 ⟨configuration, hc, rfl⟩⟩⟩

theorem exists_validate (r : Registry) (h : t.HasReadablePorts) : ∃ v, t.validate r = .ok v :=
  exists_validate_iff.2 fun i hi _ => h i hi

/-! ## Parameters of the catalog -/

/-- The parameters that methods of the catalog take. Names are bounded, ports are in range, images and
scripts have a pattern; whatever else there is takes what it is given. -/
theorem parameter_cases : ∀ type ∈ resourceTypes, ∀ p ∈ type.builder.parameters,
    (p.name = "name" ∧ type.nameLimit?.isSome ∧ p.constraints = type.nameLimit?.map .identifier) ∨
    (p.name = "port" ∧ p.isRequired = false ∧ p.constraints = some portRange) ∨
    (p.name = "scriptPath" ∧ type.id = "python-app" ∧ p.check (.text "main.py") = []) ∨
    (isPathParameter p.name = true ∧ ¬ (p.name = "scriptPath" ∧ type.id = "python-app") ∧
      p.constraints = some .path) ∨
    (p.name = "image" ∧ p.constraints = some (.ofPattern .image)) ∨
    (p.name = "tag" ∧ p.check (.text "latest") = []) ∨
    (p.name = "args" ∧ p.check .null = []) := by
  decide

/-- A text that is given is held against the constraints on texts. -/
theorem check_text {c : Constraints} (hc : p.constraints = some c) (hallowed : c.allowed = none)
    (hgiven : p.isRequired = false ∨ s ≠ "") : p.check (.text s) = c.checkText s := by
  have hpresent : (p.isRequired && isMissing (.text s)) = false := by
    rcases hgiven with hrequired | hne
    · simp [hrequired]
    · simp [isMissing, hne]
  simp [Parameter.check, hpresent, hc, Constraints.check, Constraints.checkAllowed, hallowed]

/-- An identifier is checked for its form and its length. -/
theorem check_identifier {limit : Int} (hc : p.constraints = some (.identifier limit)) (hne : s ≠ "") :
    p.check (.text s) = [] ↔ s.length ≤ limit ∧ isIdentifier s = true := by
  have hlength : ¬ (s.length : Int) < 1 := by
    have hpos := List.length_pos_of_ne_nil (by simpa using hne : s.toList ≠ [])
    rw [String.length_toList] at hpos
    omega
  rw [check_text hc rfl (Or.inr hne)]
  simp [Constraints.checkText, Constraints.identifier, Constraints.unconstrained, against, hlength]

/-- A port need not be given. Where it is a number this lies in range; a text has no range. -/
theorem check_portRange (hrequired : p.isRequired = false) (hc : p.constraints = some portRange) :
    p.check .null = [] ∧ p.check (.text s) = [] ∧
      ∀ n : Nat, 1 ≤ n → n ≤ 65535 → p.check (.int n) = [] := by
  refine ⟨?_, ?_, ?_⟩
  · simp [Parameter.check, hrequired]
  · rw [check_text hc rfl (Or.inl hrequired)]
    simp [portRange, Constraints.between, Constraints.unconstrained, Constraints.checkText, against]
  · intro n hleast hmost
    have hleast' : ¬ (n : Int) < 1 := by omega
    have hmost' : ¬ (65535 : Int) < n := by omega
    simp [Parameter.check, hrequired, hc, portRange, Constraints.between, Constraints.unconstrained,
      Constraints.check, Constraints.checkNumber, Constraints.checkAllowed, against, isBelow, isAbove, hleast',
      hmost']

theorem check_path (hc : p.constraints = some .path) (hne : s ≠ "") : p.check (.text s) = [] := by
  rw [check_text hc rfl (Or.inr hne)]
  simp [Constraints.checkText, Constraints.path, Constraints.unconstrained, against]

theorem check_image (hc : p.constraints = some (.ofPattern .image)) (hne : s ≠ "")
    (haccepts : Pattern.image.accepts s = true) : p.check (.text s) = [] := by
  rw [check_text hc rfl (Or.inr hne)]
  simp [Constraints.checkText, Constraints.ofPattern, Constraints.unconstrained, against, haccepts]

theorem exists_identifier (htype : type ∈ resourceTypes) (hp : p ∈ type.builder.parameters)
    (hname : p.name = "name") : ∃ limit, type.nameLimit? = some limit ∧ p.constraints = some (.identifier limit) := by
  have hnot : isPathParameter "name" = false := by
    decide
  have hcases := parameter_cases type htype p hp
  simp only [hname, hnot, true_and, false_and, or_false, Bool.false_eq_true, String.reduceEq] at hcases
  rcases hcases with ⟨hsome, hc⟩
  rcases Option.isSome_iff_exists.1 hsome with ⟨limit, hlimit⟩
  exact ⟨limit, hlimit, by simpa [hlimit] using hc⟩

/-! ## Arguments -/

theorem builderArgument_name : builderArgument i "name" = .ok (.text i.name) := by
  simp [builderArgument]

theorem builderArgument_script (h : i.resourceType = "python-app") :
    builderArgument i "scriptPath" = .ok (.text "main.py") := by
  simp [builderArgument, h]

theorem builderArgument_path {parameter : String} (h : isPathParameter parameter = true)
    (hscript : ¬ (parameter = "scriptPath" ∧ i.resourceType = "python-app")) (hne : i.name ≠ "") :
    builderArgument i parameter = .ok (.text ("../" ++ i.name)) := by
  have hother : parameter ≠ "name" ∧ parameter ≠ "port" := by
    constructor
    all_goals
      rintro rfl
      exact absurd h (by decide)
  simp [builderArgument, hother, hscript, h, hne]

theorem builderArgument_image (hne : i.name ≠ "") :
    builderArgument i "image" = .ok (.text ("myregistry/" ++ Naming.containerImageName i.name)) := by
  simp [builderArgument, isPathParameter, hne]

theorem builderArgument_tag : builderArgument i "tag" = .ok (.text "latest") := by
  simp [builderArgument, isPathParameter]

theorem builderArgument_args : builderArgument i "args" = .ok .null := by
  simp [builderArgument, isPathParameter]

/-! ## Databases and variables -/

theorem databaseOf?_eq_some_iff {database : String} : r.databaseOf? i = some database ↔
    r.allowsDatabase i.resourceType = true ∧ i.database = some database ∧ database ≠ "" := by
  simp [Registry.databaseOf?, Option.filter_eq_some_iff]

theorem map_name_flatMap_declaredFor {instances : List ResourceInstance}
    (h : ∀ i ∈ instances, isBlankText i.name = false) :
    (instances.flatMap (declaredFor r)).map Declared.name =
      ((instances.filter fun i => (r.find? i.resourceType).isSome).flatMap fun i =>
        i.name :: (r.databaseOf? i).toList).map Naming.variableName := by
  induction instances with
  | nil => rfl
  | cons i rest ih =>
    have hrest := ih fun j hj => h j (List.mem_cons_of_mem i hj)
    have hblank := h i List.mem_cons_self
    cases hfind : r.find? i.resourceType with
    | none =>
      have hnone : declaredFor r i = [] := by simp [declaredFor, hfind]
      simpa [hnone, hfind] using hrest
    | some type =>
      have hsome := map_name_declaredFor (r := r) hblank (by simp [hfind])
      simpa [hsome, hfind] using hrest

/-! ## References -/

/-- Whatever may be the target of a connection can refer to its source. -/
theorem supportsChaining_of_isConnectionValid {source target : String}
    (h : Registry.standard.isConnectionValid source target = true) :
    Registry.standard.supportsChaining target "WithReference" = true := by
  have hall : ∀ s ∈ resourceTypes, ∀ type ∈ resourceTypes,
      (s.referencedBy.contains type.category || type.connectsTo.contains s.category) = true →
        type.chaining.contains "WithReference" = true := by
    decide
  rw [Registry.isConnectionValid] at h
  cases hsource : Registry.standard.find? source with
  | none => simp [hsource] at h
  | some s =>
    cases htarget : Registry.standard.find? target with
    | none => simp [hsource, htarget] at h
    | some type =>
      have hcompatible := hall s (Registry.mem_types hsource).1 type (Registry.mem_types htarget).1
        (by simpa [hsource, htarget] using h)
      simpa [Registry.supportsChaining, htarget] using hcompatible

/-! ## Both directions -/

theorem Faultless.wellFormed (h : Faultless .standard t) : WellFormed .standard t where
  names i hi := ⟨h.not_blank hi, h.isIdentifier_name hi⟩
  distinctNames := h.nodup_names
  lengths := by
    intro i hi type htype limit hlimit
    -- the limit of a type is the length that its builder allows for the parameter of the name
    rcases Option.bind_eq_some_iff.1 hlimit with ⟨p, hp, hmost⟩
    have hname : p.name = "name" := by simpa using List.find?_some hp
    rcases exists_identifier (Registry.mem_types htype).1 (List.mem_of_find?_eq_some hp) hname with
      ⟨most, hsome, hc⟩
    obtain rfl : limit = most := Option.some.inj (hlimit.symm.trans hsome)
    have hcheck := checkNameParameter_eq_nil_iff.1 (h.nameParameters i hi) type htype p hp (h.name_ne_empty hi)
    exact ((check_identifier hc (h.name_ne_empty hi)).1 hcheck).1
  databases i hi database hdatabase hne hallows :=
    h.isIdentifier_database hi (databaseOf?_eq_some_iff.2 ⟨hallows, hdatabase, hne⟩)
  distinctVariables := by
    simpa [Registry.namesOf, map_name_flatMap_declaredFor fun i hi => h.not_blank hi] using h.nodup_variables
  connections := by
    intro c hc
    rcases h.exists_ends hc with ⟨source, target, hsource, htarget, hvalid, hne⟩
    exact ⟨hne, source, List.mem_of_find?_eq_some hsource, target, List.mem_of_find?_eq_some htarget,
      by simpa using List.find?_some hsource, by simpa using List.find?_some htarget, hvalid⟩
  ports := by
    intro i hi hknown p hp hne
    have hcategory : (Registry.standard.categoryOf? i).isSome := by
      simpa [Registry.categoryOf?, Registry.category?] using hknown
    have hpair : p ∈ i.config.ports.zipIdx.map Prod.fst := by simpa using hp
    rcases List.mem_map.1 hpair with ⟨e, he, rfl⟩
    have hcheck := h.ports i hi hcategory e he
    exact isPortNumber_of_isPort ((checkPort_eq_nil_iff.1 hcheck).resolve_left hne)
  acyclic := h.links_eq ▸ h.acyclic

/-- Every argument passes its check: those for ports by the demands on ports, the others by the name. -/
theorem WellFormed.checkArgument_eq_nil (h : WellFormed .standard t) (hports : t.HasReadablePorts)
    (hi : i ∈ t.instances) (htype : Registry.standard.find? i.resourceType = some type)
    (hp : p ∈ type.builder.parameters) : checkArgument i type.builder.name p = .ok [] := by
  rcases Registry.mem_types htype with ⟨hmem, hid⟩
  rcases h.names i hi with ⟨hblank, hidentifier⟩
  have hne := ne_empty_of_isBlankText hblank
  rw [checkArgument_eq_nil_iff]
  rcases parameter_cases type hmem p hp with ⟨hname, hsome, hc⟩ | ⟨hname, hrequired, hc⟩ | ⟨hname, hpython, hcheck⟩ |
    ⟨hpath, hscript, hc⟩ | ⟨hname, hc⟩ | ⟨hname, hcheck⟩ | ⟨hname, hcheck⟩
  · rcases Option.isSome_iff_exists.1 hsome with ⟨limit, hlimit⟩
    have hlength := h.lengths i hi type htype limit hlimit
    exact ⟨_, hname ▸ builderArgument_name, (check_identifier (by simpa [hlimit] using hc) hne).2 ⟨hlength, hidentifier⟩⟩
  · rw [hname, builderArgument_port]
    cases hmappings : i.config.ports with
    | nil => exact ⟨_, rfl, (check_portRange (s := "") hrequired hc).1⟩
    | cons q others =>
      have hq : q ∈ i.config.ports := hmappings ▸ List.mem_cons_self
      -- only a port in digits is checked as a number
      by_cases hdigits : Text.allDigits q.container.toList = true
      · have hgiven : q.container ≠ "" := by
          intro hempty
          rw [hempty] at hdigits
          exact absurd hdigits (by decide)
        have hnumber := h.ports i hi (by rw [htype, Option.isSome_some]) q hq hgiven
        rcases hnumber.exists_readNumeral (hports i hi q hq) with ⟨n, hread, hleast, hmost⟩
        refine ⟨.int n, ?_, (check_portRange (s := "") hrequired hc).2.2 n hleast hmost⟩
        simp [portValue, hdigits, hread, Except.map]
      · exact ⟨.text q.container, by simp [portValue, hdigits], (check_portRange hrequired hc).2.1⟩
  · exact ⟨_, hname ▸ builderArgument_script (hid.symm.trans hpython), hcheck⟩
  · refine ⟨_, builderArgument_path hpath (hid ▸ hscript) hne, check_path hc ?_⟩
    simp
  · refine ⟨_, hname ▸ builderArgument_image hne, check_image hc ?_ (Pattern.accepts_image i.name)⟩
    simp
  · exact ⟨_, hname ▸ builderArgument_tag, hcheck⟩
  · exact ⟨_, hname ▸ builderArgument_args, hcheck⟩

theorem WellFormed.checkReference_eq_nil (h : WellFormed .standard t) (hd : t.DistinctIds)
    (hi : i ∈ t.instances) : checkReference .standard t i = [] := by
  rw [checkReference_eq_nil_iff]
  cases hincoming : t.incoming i.id with
  | nil => exact Or.inl rfl
  | cons c others =>
    right
    have hc : c ∈ t.incoming i.id := hincoming ▸ List.mem_cons_self
    rcases List.mem_filter.1 hc with ⟨hc, hends⟩
    rcases h.connections c hc with ⟨-, source, -, target, htarget, -, hid, hvalid⟩
    have hsame : target.id = i.id := hid.trans (by simpa using hends)
    -- ids are distinct, so the target is the instance itself
    obtain rfl : target = i := List.inj_on_of_nodup_map hd htarget hi hsame
    exact supportsChaining_of_isConnectionValid hvalid

theorem WellFormed.closed (h : WellFormed r t) : t.Closed := by
  intro c hc
  rcases h.connections c hc with ⟨-, source, hsource, target, htarget, hs, ht, -⟩
  exact ⟨hs ▸ Topology.mem_ids_of_mem hsource, ht ▸ Topology.mem_ids_of_mem htarget⟩

theorem WellFormed.faultless (h : WellFormed .standard t) (hd : t.DistinctIds) (hports : t.HasReadablePorts) :
    Faultless .standard t where
  names i hi := checkName_eq_nil_iff.2 (h.names i hi)
  databases := by
    intro i hi
    rw [checkDatabaseName_eq_nil_iff]
    intro database hdatabase
    rcases databaseOf?_eq_some_iff.1 hdatabase with ⟨hallows, hsome, hne⟩
    exact h.databases i hi database hsome hne hallows
  nameParameters := by
    intro i hi
    rw [checkNameParameter_eq_nil_iff]
    intro type htype p hp hne
    have hname : p.name = "name" := by simpa using List.find?_some hp
    rcases exists_identifier (Registry.mem_types htype).1 (List.mem_of_find?_eq_some hp) hname with
      ⟨limit, hlimit, hc⟩
    exact (check_identifier hc hne).2 ⟨h.lengths i hi type htype limit hlimit, (h.names i hi).2⟩
  duplicates := by
    rw [checkDuplicates_eq_nil_iff]
    exact h.distinctNames.sublist (List.filter_sublist.map ResourceInstance.name)
  declared := by
    rw [checkVariables_eq_nil_iff h.distinctNames, map_name_flatMap_declaredFor fun i hi => (h.names i hi).1]
    exact h.distinctVariables
  methods i hi type htype := ⟨fun p hp => h.checkArgument_eq_nil hports hi htype hp, h.checkReference_eq_nil hd hi⟩
  connections := by
    intro c hc
    rcases h.connections c hc with ⟨hne, source, hsource, target, htarget, hs, ht, hvalid⟩
    rw [checkConnection_eq_nil_iff]
    exact ⟨source, target, (Topology.find?_eq_some_iff hd).2 ⟨hsource, hs⟩,
      (Topology.find?_eq_some_iff hd).2 ⟨htarget, ht⟩, hvalid, hne⟩
  ports := by
    intro i hi hcategory e he
    have hknown : (Registry.standard.find? i.resourceType).isSome := by
      simpa [Registry.categoryOf?, Registry.category?] using hcategory
    have hq : e.1 ∈ i.config.ports := List.fst_mem_of_mem_zipIdx he
    rw [checkPort_eq_nil_iff, or_iff_not_imp_left]
    exact fun hne => (h.ports i hi hknown e.1 hq hne).isPort (hports i hi e.1 hq)
  acyclic := (Topology.links_eq_connections h.closed).symm ▸ h.acyclic

/-- Validation ends in a report, and this is free of errors for the well-formed topologies only. -/
theorem isValid_iff_wellFormed (hd : t.DistinctIds) (hports : t.HasReadablePorts) :
    ∃ v, t.validate .standard = .ok v ∧ (v.isValid = true ↔ WellFormed .standard t) := by
  rcases exists_validate .standard hports with ⟨v, hv⟩
  refine ⟨v, hv, ?_⟩
  constructor
  · intro hvalid
    exact (validate_isValid_iff.1 ⟨v, hv, hvalid⟩).wellFormed
  · intro h
    rcases validate_isValid_iff.2 (h.faultless hd hports) with ⟨w, hw, hvalid⟩
    obtain rfl : v = w := Except.ok.inj (hv.symm.trans hw)
    exact hvalid

/-- A project that listens on a port, with its database. -/
def listening : Topology where
  instances := [⟨"1", "postgres", "pg", some "orders", ⟨[], [⟨"5432", none⟩], [⟨"./data", ""⟩], none, some true⟩⟩,
    ⟨"2", "dotnet-project", "web", none, ⟨[], [⟨"8080", some "80"⟩, ⟨"", none⟩], [], some 2, none⟩⟩]
  connections := [.make "" "1" "2" .reference]

theorem listening_distinctIds : listening.DistinctIds := by decide

theorem listening_faultless : Faultless .standard listening := by
  have hrules : PassesRules .standard listening := by decide
  exact hrules.faultless ((Topology.unsequenced_eq_nil_iff listening_distinctIds).1 (by decide))

theorem listening_wellFormed : WellFormed .standard listening := by
  have hports : listening.HasReadablePorts := by
    unfold Topology.HasReadablePorts IsReadablePort
    decide
  rcases isValid_iff_wellFormed listening_distinctIds hports with ⟨v, hv, hiff⟩
  rcases validate_isValid_iff.2 listening_faultless with ⟨w, hw, hvalid⟩
  obtain rfl : v = w := Except.ok.inj (hv.symm.trans hw)
  exact hiff.1 hvalid

end HostTopology
