import HostTopology.Proofs.Acceptance
import HostTopology.Proofs.Families
import Mathlib.Computability.Language

/-!
# Images — the images of containers and the pattern of the catalog

The pattern for images stands for a language: parts of small letters and digits, with one separator between two of
them. What a name of an image is made of fits it, whatever the name of the container is.

* `references` — the language of the pattern;
* `isImage_iff` — the texts that are of the pattern;
* `argumentFault_mem_findings_iff` — the faults that are reported of the arguments of methods;
* `image_issues` — of images nothing is reported but that one is missing, where a container has no name.
-/

namespace HostTopology

/-! ## The language of the pattern -/

namespace Catalog.Pattern

open Text Naming
open scoped Computability

/-- The parts, `[a-z0-9]+`. -/
def blocks : Language Char :=
  {w | w ≠ [] ∧ ∀ c ∈ w, 'a' ≤ c ∧ c ≤ 'z' ∨ '0' ≤ c ∧ c ≤ '9'}

/-- What stands between two parts, `[-._/]`. -/
def separators : Language Char :=
  {w | ∃ c ∈ ['.', '_', '-', '/'], w = [c]}

/-- The whole pattern, `[a-z0-9]+([-._/][a-z0-9]+)*`: any number of parts may follow the first. -/
def references : Language Char :=
  blocks * (separators * blocks)∗

variable {cs w : List Char} {c : Char}

theorem isImageChar_iff : isImageChar c = true ↔ 'a' ≤ c ∧ c ≤ 'z' ∨ '0' ≤ c ∧ c ≤ '9' := by
  unfold isImageChar Char.isLower Char.isDigit
  simp only [Bool.or_eq_true, Bool.and_eq_true, decide_eq_true_eq, Char.le_def, ge_iff_le]

theorem mem_blocks_iff : w ∈ blocks ↔ w ≠ [] ∧ ∀ c ∈ w, isImageChar c = true := by
  simp only [isImageChar_iff]
  rfl

theorem mem_separators_iff : w ∈ separators ↔ ∃ c, isImageSeparator c = true ∧ w = [c] := by
  have hchar : ∀ c, isImageSeparator c = true ↔ c ∈ ['.', '_', '-', '/'] := by
    intro c
    simp [isImageSeparator, or_assoc]
  simp only [hchar]
  rfl

theorem not_isSep_of_mem_blocks (hw : w ∈ blocks) : ∀ c ∈ w, isImageSeparator c = false :=
  fun c hc => isImageSeparator_of_isImageChar ((mem_blocks_iff.1 hw).2 c hc)

theorem isImage_iff_forall : isImage cs = true ↔ ∀ part ∈ splitAll isImageSeparator cs, part ∈ blocks := by
  simp only [mem_blocks_iff]
  simp [isImage, isImageChar]

theorem isImage_of_mem_blocks (hw : w ∈ blocks) : isImage w = true := by
  rw [isImage_iff_forall, splitAll_of_not_isSep (not_isSep_of_mem_blocks hw)]
  simpa using hw

theorem isImage_append_cons_iff (hw : ∀ c ∈ w, isImageSeparator c = false) (hc : isImageSeparator c = true) :
    isImage (w ++ c :: cs) = true ↔ w ∈ blocks ∧ isImage cs = true := by
  rw [isImage_iff_forall, isImage_iff_forall, splitAll_append_cons hw hc, List.forall_mem_cons]

/-- A reference is one part, or a part and a reference with a separator in between. -/
theorem references_eq : references = blocks + blocks * (separators * references) := by
  calc references
      = blocks * (1 + separators * blocks * (separators * blocks)∗) := by
        rw [Language.one_add_self_mul_kstar_eq_kstar, references]
    _ = blocks + blocks * (separators * references) := by
        rw [mul_add, mul_one, mul_assoc separators, references]

theorem mem_references_append_cons (hw : w ∈ blocks) (hc : isImageSeparator c = true) (hcs : cs ∈ references) :
    w ++ c :: cs ∈ references := by
  have hsep : [c] ∈ separators := mem_separators_iff.2 ⟨c, hc, rfl⟩
  rw [references_eq]
  exact Or.inr (Language.append_mem_mul hw (Language.append_mem_mul hsep hcs))

/-- A text is cut at its first separator; what follows is shorter. -/
theorem mem_references_of_isImage {cs : List Char} (h : isImage cs = true) : cs ∈ references := by
  cases hfirst : cs.find? isImageSeparator with
  | none =>
    have hsep : ∀ c ∈ cs, isImageSeparator c = false := by simpa using hfirst
    rw [isImage_iff_forall, splitAll_of_not_isSep hsep, List.forall_mem_singleton] at h
    rw [references_eq]
    exact Or.inl h
  | some c =>
    obtain ⟨hc, w, rest, hcs, hlead⟩ := List.find?_eq_some_iff_append.1 hfirst
    have hw : ∀ c ∈ w, isImageSeparator c = false := by simpa using hlead
    rw [hcs, isImage_append_cons_iff hw hc] at h
    have hshorter : rest.length < cs.length := by
      rw [hcs, List.length_append, List.length_cons]
      omega
    rw [hcs]
    exact mem_references_append_cons h.1 hc (mem_references_of_isImage h.2)
termination_by cs.length

theorem isImage_append_flatten {parts : List (List Char)} (hw : w ∈ blocks)
    (hparts : ∀ part ∈ parts, part ∈ separators * blocks) : isImage (w ++ parts.flatten) = true := by
  induction parts generalizing w with
  | nil => simpa using isImage_of_mem_blocks hw
  | cons part parts ih =>
    rw [List.forall_mem_cons] at hparts
    obtain ⟨⟨sep, hsep, next, hnext, rfl⟩, hparts⟩ := hparts
    obtain ⟨c, hc, rfl⟩ := mem_separators_iff.1 hsep
    have hrest := ih hnext hparts
    have happend : w ++ (([c] ++ next) :: parts).flatten = w ++ c :: (next ++ parts.flatten) := by simp
    exact happend ▸ (isImage_append_cons_iff (not_isSep_of_mem_blocks hw) hc).2 ⟨hw, hrest⟩

theorem isImage_iff : isImage cs = true ↔ cs ∈ references := by
  refine ⟨mem_references_of_isImage, ?_⟩
  rintro ⟨w, hw, tail, htail, rfl⟩
  obtain ⟨parts, rfl, hparts⟩ := Language.mem_kstar.1 htail
  exact isImage_append_flatten hw hparts

theorem image_mem_references (name : String) : ("myregistry/" ++ containerImageName name).toList ∈ references := by
  have hregistry : "myregistry".toList ∈ blocks := mem_blocks_iff.2 (by decide)
  rw [toList_image]
  exact mem_references_append_cons hregistry (by decide) (isImage_iff.1 (isImage_containerImageName name))

end Catalog.Pattern

/-! ## Faults of arguments -/

namespace Validation

open Catalog

variable {r : Registry} {t : Topology} {i : ResourceInstance} {v : Report} {found : List Finding} {p : Parameter}
  {node method : String} {n : Nat} {fault : ParameterFault}

theorem argumentFault_mem_checkArgument_iff {q : Parameter} {name : String} (h : checkArgument i name q = .ok found) :
    .argumentFault node method p n fault ∈ found ↔ i.id = node ∧ name = method ∧ q = p ∧
      ∃ value, builderArgument i p.name = .ok value ∧ (p.check value)[n]? = some fault := by
  simp only [mem_checkArgument_iff h, Finding.argumentFault.injEq]
  constructor
  · rintro ⟨value, n, fault, hvalue, hfault, rfl, rfl, rfl, rfl, rfl⟩
    exact ⟨rfl, rfl, rfl, value, hvalue, hfault⟩
  · rintro ⟨rfl, rfl, rfl, value, hvalue, hfault⟩
    exact ⟨value, n, fault, hvalue, hfault, rfl, rfl, rfl, rfl, rfl⟩

theorem argumentFault_mem_checkMethods_iff (h : checkMethods r t i = .ok found) :
    .argumentFault node method p n fault ∈ found ↔ i.id = node ∧
      ∃ type, r.find? i.resourceType = some type ∧ type.builder.name = method ∧ p ∈ type.builder.parameters ∧
        ∃ value, builderArgument i p.name = .ok value ∧ (p.check value)[n]? = some fault := by
  rcases checkMethods_cases h with ⟨hnone, rfl⟩ | ⟨type, parts, htype, hparts, rfl⟩
  · simp [hnone]
  · have hreference : .argumentFault node method p n fault ∉ checkReference r t i := by
      simp [mem_checkReference_iff]
    rw [List.mem_append, or_iff_left hreference, Except.mem_flatten_of_mapM_iff hparts,
      Except.exists_ok_and_iff ⟨parts, hparts⟩ fun q part h => argumentFault_mem_checkArgument_iff h, htype]
    constructor
    · rintro ⟨q, hq, hnode, hmethod, rfl, hfault⟩
      exact ⟨hnode, type, rfl, hmethod, hq, hfault⟩
    · rintro ⟨hnode, type', hsome, hmethod, hp, hfault⟩
      obtain rfl := Option.some.inj hsome
      exact ⟨p, hp, hnode, hmethod, rfl, hfault⟩

theorem argumentFault_notMem_checkNaming : .argumentFault node method p n fault ∉ checkNaming r t := by
  rw [mem_checkNaming_iff (by simp) (by simp) (by simp)]
  rintro ⟨i, -, hname | hdatabase⟩
  · simp [mem_checkName_iff] at hname
  · simp [mem_checkDatabaseName_iff] at hdatabase

theorem argumentFault_mem_findings_iff (hv : t.validate r = .ok v) :
    .argumentFault node method p n fault ∈ v.findings ↔ ∃ i ∈ t.instances, i.id = node ∧
      ∃ type, r.find? i.resourceType = some type ∧ type.builder.name = method ∧ p ∈ type.builder.parameters ∧
        ∃ value, builderArgument i p.name = .ok value ∧ (p.check value)[n]? = some fault := by
  obtain ⟨methods, -, hmethods, -⟩ := exists_parts hv
  rw [mem_findings_of_api hv rfl, or_iff_right argumentFault_notMem_checkNaming]
  exact Except.exists_ok_and_iff ⟨methods, hmethods⟩ fun i found h => argumentFault_mem_checkMethods_iff h

/-! ## Images of containers -/

/-- Only containers take an image. -/
theorem image_parameter {type : ResourceType} (htype : type ∈ resourceTypes) (hp : p ∈ type.builder.parameters)
    (hname : p.name = "image") : type.id = "container" ∧ p.constraints = some (.ofPattern .image) := by
  have hall : ∀ type ∈ resourceTypes, ∀ p ∈ type.builder.parameters, p.name = "image" →
      type.id = "container" ∧ p.constraints = some (.ofPattern .image) := by
    decide
  exact hall type htype p hp hname

theorem check_image_of_name (hc : p.constraints = some (.ofPattern .image)) (hname : p.name = "image")
    (hne : i.name ≠ "") : ∃ value, builderArgument i p.name = .ok value ∧ p.check value = [] := by
  refine ⟨_, hname ▸ builderArgument_image hne, check_image hc ?_ (Pattern.accepts_image i.name)⟩
  simp

theorem builderArgument_image_of_empty (hempty : i.name = "") : builderArgument i "image" = .ok .null := by
  simp [builderArgument, isPathParameter, hempty]

theorem eq_missing_of_mem_check_null (h : fault ∈ p.check .null) : fault = .missing := by
  rw [Parameter.check] at h
  split at h
  · exact List.mem_singleton.1 h
  · cases h

theorem argumentFault_image (hv : t.validate .standard = .ok v) (hname : p.name = "image")
    (hmem : .argumentFault node method p n fault ∈ v.findings) :
    fault = .missing ∧ ∃ i ∈ t.instances, i.id = node ∧ i.resourceType = "container" ∧ i.name = "" := by
  obtain ⟨i, hi, hnode, type, htype, -, hp, value, hvalue, hfault⟩ := (argumentFault_mem_findings_iff hv).1 hmem
  obtain ⟨hmember, hid⟩ := Registry.mem_types htype
  obtain ⟨hcontainer, hc⟩ := image_parameter hmember hp hname
  have hfault := List.mem_of_getElem? hfault
  by_cases hempty : i.name = ""
  · rw [hname, builderArgument_image_of_empty hempty] at hvalue
    obtain rfl := Except.ok.inj hvalue
    exact ⟨eq_missing_of_mem_check_null hfault, i, hi, hnode, hid.symm.trans hcontainer, hempty⟩
  · -- the argument of an instance with a name has no fault
    obtain ⟨value', hvalue', hcheck⟩ := check_image_of_name hc hname hempty
    obtain rfl := Except.ok.inj (hvalue.symm.trans hvalue')
    rw [hcheck] at hfault
    cases hfault

/-- The image that is made from a name is in the language of the pattern, and passes the check of the parameter
that takes it. What is reported of images is that one is missing, of containers without a name. -/
theorem image_issues (hv : t.validate .standard = .ok v) :
    (∀ name, ("myregistry/" ++ Naming.containerImageName name).toList ∈ Pattern.references ∧
      Pattern.image.accepts ("myregistry/" ++ Naming.containerImageName name) = true) ∧
    (∀ type ∈ resourceTypes, ∀ p ∈ type.builder.parameters, p.name = "image" →
      p.constraints = some (.ofPattern .image) ∧
      ∀ i : ResourceInstance, i.name ≠ "" → checkArgument i type.builder.name p = .ok []) ∧
    ∀ issue ∈ v.issues, issue.parameter? = some "image" → issue.message = "image is required" ∧
      ∃ i ∈ t.instances, issue.node? = some i.id ∧ i.resourceType = "container" ∧ i.name = "" := by
  refine ⟨fun name => ⟨Pattern.image_mem_references name, Pattern.accepts_image name⟩, ?_, ?_⟩
  · intro type htype p hp hname
    have hc := (image_parameter htype hp hname).2
    exact ⟨hc, fun i hne => checkArgument_eq_nil_iff.2 (check_image_of_name hc hname hne)⟩
  · intro issue hissue hparameter
    obtain ⟨f, hf, rfl⟩ := List.mem_map.1 hissue
    cases f with
    | argumentFault node method p n fault =>
      have hname : p.name = "image" := Option.some.inj hparameter
      obtain ⟨rfl, i, hi, rfl, hcontainer, hempty⟩ := argumentFault_image hv hname hf
      exact ⟨congrArg (· ++ " is required") hname, i, hi, rfl, hcontainer, hempty⟩
    | _ => simp [Finding.issue, Finding.parameter?] at hparameter

/-- A container with letters outside ASCII in its name, and one without a name. -/
def shipped : Topology where
  instances := [⟨"1", "container", "ÀPI Größe", none, ⟨[], [], [], none, none⟩⟩,
    ⟨"2", "container", "", none, ⟨[], [], [], none, none⟩⟩]
  connections := []

theorem shipped_image_issues : ∃ v, shipped.validate .standard = .ok v ∧
    (∃ issue ∈ v.issues, issue.parameter? = some "image") ∧
    ∀ issue ∈ v.issues, issue.parameter? = some "image" → issue.message = "image is required" ∧
      ∃ i ∈ shipped.instances, issue.node? = some i.id ∧ i.resourceType = "container" ∧ i.name = "" := by
  have hports : shipped.HasReadablePorts := by
    unfold Topology.HasReadablePorts IsReadablePort
    decide
  obtain ⟨v, hv⟩ := exists_validate .standard hports
  have htype : ∃ type, Registry.standard.find? "container" = some type ∧
      ∃ p ∈ type.builder.parameters, p.name = "image" ∧ (p.check .null)[0]? = some .missing := by
    decide
  obtain ⟨type, htype, p, hp, hname, hcheck⟩ := htype
  have hmem : .argumentFault "2" type.builder.name p 0 .missing ∈ v.findings :=
    (argumentFault_mem_findings_iff hv).2 ⟨_, List.mem_cons_of_mem _ List.mem_cons_self, rfl, type, htype, rfl, hp,
      .null, hname ▸ builderArgument_image_of_empty rfl, hcheck⟩
  have hissue := List.mem_map_of_mem (f := Finding.issue) hmem
  exact ⟨v, hv, ⟨_, hissue, congrArg some hname⟩, (image_issues hv).2.2⟩

end Validation
end HostTopology
