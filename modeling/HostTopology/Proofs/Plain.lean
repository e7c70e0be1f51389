import HostTopology.Proofs.Code
import HostTopology.Proofs.Scope

/-!
# Plain — the declarations of a faultless topology can be read back

Names are identifiers, variables are letters and digits, and methods come from the catalog. What is
left to the user are environments and bind mounts, and the ports, which have no call that is read.

* `HasPlainTexts` — these texts are plain, and no port names a container port;
* `Faultless.isPlain_declaration` — then every declaration is plain.
-/

namespace HostTopology
namespace AppHost

open Text Catalog Naming

variable {t : Topology} {i : ResourceInstance} {s : Statement} {d : Declaration} {type : ResourceType}
  {c : ChainCall} {name : String}

/-! ## Arguments after the name -/

namespace OpeningCall

theorem isFurther_nil : IsFurther [] where
  chars := by decide
  unmarked := by decide
  tidy ys := tidy_of_not_mem_break List.not_mem_nil _

/-- An argument that is part of the name of a file or of an image. -/
theorem IsFurther.cons {before word more : List Char} (h : IsFurther more)
    (hbefore : (∀ c ∈ before, c ≠ '(' ∧ c ≠ '<' ∧ c ≠ ';') ∧ contains persistentMark.toList before = false ∧
      '\n' ∉ before)
    (hword : ∀ c ∈ word, isNameChar c = true) :
    IsFurther (before ++ '/' :: (word ++ '"' :: more)) where
  chars := by
    intro c hc
    simp only [List.mem_append, List.mem_cons] at hc
    rcases hc with hc | rfl | hc | rfl | hc
    · exact hbefore.1 c hc
    · decide
    · have hnot : ∀ n : Fin 128, isNameChar (Char.ofNat n) = true →
          Char.ofNat n ≠ '(' ∧ Char.ofNat n ≠ '<' ∧ Char.ofNat n ≠ ';' := by decide
      exact of_isNameChar (P := fun c => c ≠ '(' ∧ c ≠ '<' ∧ c ≠ ';') hnot (hword c hc)
    · decide
    · exact h.chars c hc
  unmarked := by
    have hdot : '.' ∉ word := fun hmem => absurd (hword _ hmem) (by decide)
    rw [contains_mark_append_cons (by decide), hbefore.2.1, Bool.false_or,
      contains_mark_append_cons (by decide), not_contains_mark_of_not_mem hdot, Bool.false_or, h.unmarked]
  tidy := by
    intro ys
    -- no slash follows the one before the word, so that this begins no comment
    have hslash : '/' ∉ word := fun hmem => absurd (hword _ hmem) (by decide)
    have hline : '\n' ∉ before ++ ['/'] := by
      rw [List.mem_append, not_or]
      exact ⟨hbefore.2.2, by decide⟩
    have htext : before ++ '/' :: (word ++ '"' :: more) = (before ++ ['/']) ++ (word ++ (['"'] ++ more)) := by
      simp only [List.append_assoc, List.cons_append, List.nil_append]
    rw [htext]
    exact Tidy.append (tidy_of_not_mem_break hline _) (Tidy.append (tidy_of_not_mem hslash (by decide) _)
      (Tidy.append (tidy_of_not_mem_break (by decide) _) (h.tidy ys)))

theorem isFurther_path (hname : ∀ c ∈ name.toList, isNameChar c = true) {more : List Char}
    (h : IsFurther more) : IsFurther ((", " ++ literal ("../" ++ name)).toList ++ more) := by
  have hbefore : (∀ c ∈ ", \"..".toList, c ≠ '(' ∧ c ≠ '<' ∧ c ≠ ';') ∧
      contains persistentMark.toList ", \"..".toList = false ∧ '\n' ∉ ", \"..".toList := by decide
  have htext : (", " ++ literal ("../" ++ name)).toList ++ more =
      ", \"..".toList ++ '/' :: (name.toList ++ '"' :: more) := by
    have hlits : ", ".toList = [',', ' '] ∧ "\"".toList = ['"'] ∧ "../".toList = ['.', '.', '/'] ∧
        ", \"..".toList = [',', ' ', '"', '.', '.'] := by decide
    simp only [literal, String.toList_append, hlits.1, hlits.2.1, hlits.2.2.1, hlits.2.2.2, List.append_assoc,
      List.cons_append, List.nil_append]
  rw [htext]
  exact h.cons hbefore hname

theorem isFurther_script : IsFurther (", " ++ literal "main.py").toList where
  chars := by decide
  unmarked := by decide
  tidy ys := tidy_of_not_mem_break (by decide) _

theorem isFurther_tag : IsFurther (", " ++ literal "latest").toList where
  chars := by decide
  unmarked := by decide
  tidy ys := tidy_of_not_mem_break (by decide) _

theorem isNameChar_containerImageName (name : String) :
    ∀ c ∈ (containerImageName name).toList, isNameChar c = true := by
  intro c hc
  rcases mem_containerImageName hc with hc | rfl
  · exact of_isAlphanum (P := fun c => isNameChar c = true) (by decide) hc
  · decide

theorem isFurther_image (name : String) :
    IsFurther (", " ++ literal (imageRegistry ++ containerImageName name) ++ ", " ++ literal "latest").toList := by
  have hbefore : (∀ c ∈ ", \"myregistry".toList, c ≠ '(' ∧ c ≠ '<' ∧ c ≠ ';') ∧
      contains persistentMark.toList ", \"myregistry".toList = false ∧ '\n' ∉ ", \"myregistry".toList := by decide
  have htext : (", " ++ literal (imageRegistry ++ containerImageName name) ++ ", " ++ literal "latest").toList =
      ", \"myregistry".toList ++ '/' :: ((containerImageName name).toList ++
        '"' :: (", " ++ literal "latest").toList) := by
    have hlits : ", ".toList = [',', ' '] ∧ "\"".toList = ['"'] ∧
        imageRegistry.toList = "myregistry".toList ++ ['/'] ∧
          ", \"myregistry".toList = ',' :: ' ' :: '"' :: "myregistry".toList := by decide
    simp only [literal, String.toList_append, hlits.1, hlits.2.1, hlits.2.2.1, hlits.2.2.2, List.append_assoc,
      List.cons_append, List.nil_append]
  rw [htext]
  exact isFurther_tag.cons hbefore (isNameChar_containerImageName name)

end OpeningCall

/-! ## Opening calls -/

/-- A method of the catalog. -/
def isMethod (method : String) : Bool :=
  "Add".toList.isPrefixOf method.toList && !(method.toList.drop 3).isEmpty &&
    (method.toList.drop 3).all Char.isAlphanum

theorem exists_suffix {method : String} (h : isMethod method = true) :
    ∃ suffix, method = "Add" ++ suffix ∧ IsVariable suffix := by
  simp only [isMethod, Bool.and_eq_true, Bool.not_eq_true', List.isEmpty_eq_false_iff, List.all_eq_true] at h
  rcases h with ⟨⟨hadd, hne⟩, halnum⟩
  rcases List.isPrefixOf_iff_prefix.1 hadd with ⟨rest, hrest⟩
  have hdrop : method.toList.drop 3 = rest := by
    rw [← hrest]
    rfl
  rw [hdrop] at hne halnum
  refine ⟨String.ofList rest, ?_, ?_, ?_⟩
  · have hlist : (String.ofList rest).toList = rest := String.toList_ofList
    rw [← String.toList_inj, String.toList_append, hlist]
    exact hrest.symm
  · intro hempty
    rw [← String.toList_inj, String.toList_ofList] at hempty
    exact hne hempty
  · rwa [String.toList_ofList]

/-- An instance is opened with the method of its type, whatever the form of the call. -/
theorem method_openingCall (h : Registry.standard.find? i.resourceType = some type) :
    (openingCall i type.builder.name name).method = type.builder.name := by
  have hall : ∀ type ∈ resourceTypes,
      (openingCall ⟨"", type.id, "", none, .empty⟩ type.builder.name "").method = type.builder.name := by
    decide
  rcases Registry.mem_types h with ⟨hmem, hid⟩
  rw [← hall type hmem, openingCall, openingCall, hid]
  cases shapeOf i.resourceType <;> rfl

theorem exists_suffix_builder (h : Registry.standard.find? i.resourceType = some type) (name : String) :
    ∃ suffix, (openingCall i type.builder.name name).method = "Add" ++ suffix ∧ IsVariable suffix := by
  have hall : ∀ type ∈ resourceTypes, isMethod type.builder.name = true := by decide
  rw [method_openingCall h]
  exact exists_suffix (hall type (Registry.mem_types h).1)

theorem isVariable_builder : IsVariable "builder" := by
  refine ⟨by decide, ?_⟩
  decide

theorem isPlain_openingCall (h : Registry.standard.find? i.resourceType = some type)
    (hname : isIdentifier i.name = true) :
    (openingCall i type.builder.name (variableName i.name)).IsPlain := by
  have hmethod := exists_suffix_builder h (variableName i.name)
  have hne := ne_empty_of_isIdentifier hname
  have hchars := isNameChar_of_isIdentifier hname
  have hnone : ∀ className ∈ (none : Option String), IsVariable className := by
    intro className h
    cases h
  have hpath := OpeningCall.isFurther_path hchars OpeningCall.isFurther_nil
  rw [List.append_nil] at hpath
  rw [openingCall] at hmethod ⊢
  -- the forms differ in the class name and in what follows the name
  cases hshape : shapeOf i.resourceType with
  | generic =>
    rw [hshape] at hmethod
    exact ⟨isVariable_builder, hmethod, hnone, hne, hchars, OpeningCall.isFurther_nil⟩
  | project =>
    rw [hshape] at hmethod
    refine ⟨isVariable_builder, hmethod, ?_, hne, hchars, OpeningCall.isFurther_nil⟩
    intro className h
    obtain rfl := Option.some.inj h
    exact isVariable_capitalizeFirst (isVariable_variableName i.name)
  | nodeApp =>
    rw [hshape] at hmethod
    exact ⟨isVariable_builder, hmethod, hnone, hne, hchars, hpath⟩
  | viteApp =>
    rw [hshape] at hmethod
    exact ⟨isVariable_builder, hmethod, hnone, hne, hchars, hpath⟩
  | pythonApp =>
    rw [hshape] at hmethod
    refine ⟨isVariable_builder, hmethod, hnone, hne, hchars, ?_⟩
    have hscript := OpeningCall.isFurther_path hchars OpeningCall.isFurther_script
    rw [← String.toList_append, ← String.append_assoc] at hscript
    exact hscript
  | container =>
    rw [hshape] at hmethod
    exact ⟨isVariable_builder, hmethod, hnone, hne, hchars, OpeningCall.isFurther_image i.name⟩

theorem isPlain_database {server : String} (hserver : IsVariable server) (hname : isIdentifier name = true) :
    (OpeningCall.database server name).IsPlain := by
  have hmethod : ∃ suffix, (OpeningCall.database server name).method = "Add" ++ suffix ∧ IsVariable suffix := by
    have hadd : isMethod "AddDatabase" = true := by decide
    exact exists_suffix hadd
  refine ⟨hserver, hmethod, ?_, ne_empty_of_isIdentifier hname, isNameChar_of_isIdentifier hname,
    OpeningCall.isFurther_nil⟩
  intro className h
  cases h

/-! ## Chains -/

/-- The texts of a topology that stand in its AppHost as they are. -/
structure HasPlainTexts (t : Topology) : Prop where
  ports : ∀ i ∈ t.instances, ∀ p ∈ i.config.ports, p.container = ""
  envVars : ∀ i ∈ t.instances, ∀ v ∈ i.config.envVars, IsPlain v.key ∧ IsPlain v.value
  volumes : ∀ i ∈ t.instances, ∀ v ∈ i.config.volumes, IsPlain v.source ∧ IsPlain v.target

theorem isPlain_defaultChain {shape : Shape} (hc : c ∈ defaultChain shape) : c.IsPlain := by
  rcases eq_of_mem_defaultChain hc with rfl | rfl
  · trivial
  · exact ⟨rfl, rfl⟩

theorem isPlain_configChain (h : HasPlainTexts t) (hi : i ∈ t.instances) {category : ResourceCategory}
    (hnumbers : ∀ n, ChainCall.replicas n ∈ configChain i category → n.natAbs < numeralBound)
    (hc : c ∈ configChain i category) : c.IsPlain := by
  -- a number is bounded because it stands in the chain
  refine forall_mem_configChain (P := fun c => c ∈ configChain i category → c.IsPlain)
    (fun _ _ => trivial) (fun c hdefault _ => isPlain_defaultChain hdefault) ?_ ?_ ?_ ?_ c hc hc
  · intro v hv _
    exact h.envVars i hi v hv
  · intro p hp hpresent _
    rw [h.ports i hi p hp] at hpresent
    cases hpresent
  · intro v hv _
    exact h.volumes i hi v hv
  · intro n _ hpos hmem
    exact ⟨hpos, hnumbers n hmem⟩

theorem isPlain_referenceChain {r : Registry} {id : String} : ∀ c ∈ referenceChain r t id, c.IsPlain :=
  forall_mem_referenceChain (fun _ => isVariable_variableName _) fun _ => isVariable_variableName _

/-! ## Declarations -/

theorem mem_numbers {r : Registry} {ordered : List ResourceInstance} {n : Int}
    (hd : d ∈ ordered.filterMap (declare? r t)) (hs : s ∈ d.statements) (hn : ChainCall.replicas n ∈ s.chain) :
    n ∈ Artifacts.numbers r t ordered := by
  rw [Artifacts.numbers, List.mem_append]
  refine Or.inl (List.mem_flatMap.2 ⟨d, hd, List.mem_flatMap.2 ⟨s, hs, ?_⟩⟩)
  exact List.mem_filterMap.2 ⟨_, hn, rfl⟩

/-- Whether there is a database or not, the calls are those of the configuration and the references. -/
theorem exists_chain_of_declare? {r : Registry} (h : declare? r t i = some d) :
    ∃ type, r.find? i.resourceType = some type ∧
      d.statements.flatMap Statement.chain = configChain i type.category ++ referenceChain r t i.id := by
  obtain ⟨type, htype, ⟨database, -, rfl⟩ | ⟨-, rfl⟩⟩ := declare?_cases h
  · exact ⟨type, htype, by simp⟩
  · exact ⟨type, htype, by simp⟩

/-- A call of a statement configures the instance or refers to another one, and all that configure it are there. -/
theorem exists_calls_of_declare? {r : Registry} (h : declare? r t i = some d) :
    ∃ type, r.find? i.resourceType = some type ∧
      (∀ s ∈ d.statements, ∀ c ∈ s.chain, c ∈ configChain i type.category ∨ c ∈ referenceChain r t i.id) ∧
      ∀ c ∈ configChain i type.category, ∃ s ∈ d.statements, c ∈ s.chain := by
  obtain ⟨type, htype, hchain⟩ := exists_chain_of_declare? h
  refine ⟨type, htype, fun s hs c hc => ?_, fun c hc => ?_⟩
  · exact List.mem_append.1 (hchain ▸ List.mem_flatMap.2 ⟨s, hs, hc⟩)
  · exact List.mem_flatMap.1 (hchain ▸ List.mem_append_left _ hc)

/-- Whatever is configured, the statements of a faultless topology open with plain calls. -/
theorem isFramed_of_declare? (hfaultless : Faultless .standard t) (hi : i ∈ t.instances)
    (hd : declare? .standard t i = some d) : d.IsLabelled ∧ ∀ s ∈ d.statements, s.IsFramed := by
  have hvariable := isVariable_variableName i.name
  obtain ⟨type, htype, hstatements⟩ := declare?_cases hd
  have hlabel : '\n' ∉ type.displayName.toList := by
    have hall : ∀ type ∈ resourceTypes, '\n' ∉ type.displayName.toList := by decide
    exact hall type (Registry.mem_types htype).1
  have hopening := isPlain_openingCall htype (hfaultless.isIdentifier_name hi)
  rcases hstatements with ⟨database, hdatabase, rfl⟩ | ⟨-, rfl⟩
  · refine ⟨⟨hlabel, List.cons_ne_nil _ _⟩, fun s hs => ?_⟩
    rcases List.mem_cons.1 hs with rfl | hs
    · exact ⟨hvariable, hopening⟩
    · obtain rfl := List.mem_singleton.1 hs
      exact ⟨isVariable_variableName database,
        isPlain_database hvariable (hfaultless.isIdentifier_database hi hdatabase)⟩
  · refine ⟨⟨hlabel, List.cons_ne_nil _ _⟩, fun s hs => ?_⟩
    obtain rfl := List.mem_singleton.1 hs
    exact ⟨hvariable, hopening⟩

/-- What a faultless topology declares, if its numbers can be written. -/
theorem isPlain_declaration (hfaultless : Faultless .standard t) (htexts : HasPlainTexts t)
    (hi : i ∈ t.instances) (hd : declare? .standard t i = some d)
    (hnumbers : ∀ s ∈ d.statements, ∀ n, ChainCall.replicas n ∈ s.chain → n.natAbs < numeralBound) :
    d.IsPlain := by
  obtain ⟨hlabel, hframed⟩ := isFramed_of_declare? hfaultless hi hd
  obtain ⟨type, -, hcalls, hconfig⟩ := exists_calls_of_declare? hd
  have hbounds : ∀ n, ChainCall.replicas n ∈ configChain i type.category → n.natAbs < numeralBound := by
    intro n hn
    obtain ⟨s, hs, hn⟩ := hconfig _ hn
    exact hnumbers s hs n hn
  refine ⟨hlabel, fun s hs => ⟨hframed s hs, fun c hc => ?_⟩⟩
  rcases hcalls s hs c hc with hc | hc
  · exact isPlain_configChain htexts hi hbounds hc
  · exact isPlain_referenceChain c hc

end AppHost
end HostTopology
