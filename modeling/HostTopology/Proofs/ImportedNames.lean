import HostTopology.Proofs.Acceptance
import HostTopology.Proofs.Blocks
import HostTopology.Proofs.Dependencies
import HostTopology.Proofs.Families
import HostTopology.Proofs.Identifiers
import HostTopology.Proofs.Insertion
import HostTopology.Proofs.Places

/-!
# ImportedNames — the names that an import gives to instances

A compose file names its services, and the name of an instance is that of its service with underscores in place of
hyphens and points. A Dockerfile describes one instance, which is named for the file or for the base image. Not every
name that comes out of this is an identifier, and not all of one file are different:

* `Compose.IsPlain`, `Compose.Alike` — the names of services that become identifiers, and those that become one name;
* `Dockerfile.bareName` — the small letters and digits that a name is made from, without what is around them;
* `checkNaming_eq_nil_iff` — what the rules about names ask of instances without databases;
* `imported_names_usable_iff` — when the names are identifiers and different, and pass the rules.
-/

namespace HostTopology

open Text Identifier Validation

/-! ## Instances of a sketch -/

namespace Sketch

variable {s : Sketch} {reserved : List String}

/-- What does not depend on the ids can be read off the drafts. -/
theorem map_imported (s : Sketch) (reserved : List String) {β : Type} {g : ResourceInstance → β} {f : Draft → β}
    (h : ∀ d id, g (d.withId id) = f d) :
    (s.imported reserved).topology.instances.map g = s.drafts.map f := by
  have hlength : (freshIds reserved s.drafts.length).length = s.drafts.length := length_freshIds ..
  refine List.ext_getElem (by simp [imported, hlength]) fun n hn hn' => ?_
  simp [imported, h]

theorem forall_imported_iff {P : ResourceInstance → Prop} {Q : Draft → Prop} (h : ∀ d id, P (d.withId id) ↔ Q d) :
    (∀ i ∈ (s.imported reserved).topology.instances, P i) ↔ ∀ d ∈ s.drafts, Q d := by
  have hmap := map_imported s reserved fun d id => propext (h d id)
  refine (List.forall_mem_map (P := fun q => q)).symm.trans ?_
  rw [hmap]
  exact List.forall_mem_map

end Sketch

/-! ## Names of services -/

namespace Compose

variable {text name name' : String} {c : Char} {cs : List Char}

open Naming

/-- An ASCII name that no digit begins, and no keyword. -/
structure IsPlain (name : String) : Prop where
  ascii : ∀ c ∈ name.toList, c.toNat < 128
  first : ∀ c ∈ name.toList.head?, c.isDigit = false
  not_keyword : name ∉ keywords

/-- A character that an underscore stands for. -/
def isSeparator (c : Char) : Bool :=
  c = '-' || c = '.' || c = '_'

/-- The same names but for their separators. -/
def Alike (name name' : String) : Prop :=
  List.Forall₂ (fun c d => c = d ∨ isSeparator c = true ∧ isSeparator d = true) name.toList name'.toList

/-- The character that becomes part of the name of an instance. -/
def separated (c : Char) : Char :=
  if c = '-' ∨ c = '.' then '_' else c

theorem sanitizeServiceName_eq (name : String) : (sanitizeServiceName name).toList = name.toList.map separated := by
  rw [sanitizeServiceName, String.toList_ofList]
  rfl

theorem separated_eq_iff {d : Char} :
    separated c = separated d ↔ c = d ∨ isSeparator c = true ∧ isSeparator d = true := by
  simp only [separated, isSeparator, Bool.or_eq_true, decide_eq_true_eq]
  grind

theorem sanitizeServiceName_eq_iff : sanitizeServiceName name = sanitizeServiceName name' ↔ Alike name name' := by
  rw [← String.toList_inj, sanitizeServiceName_eq, sanitizeServiceName_eq, Alike, ← List.forall₂_eq_eq_eq,
    List.forall₂_map_left_iff, List.forall₂_map_right_iff]
  simp only [separated_eq_iff]

/-- A name of a service: a word character, and then word characters, points and hyphens. -/
theorem exists_of_nameBeforeColon? (h : nameBeforeColon? cs = some name) :
    ∃ c rest, name.toList = c :: rest ∧ isWord c = true ∧ ∀ d ∈ rest, isNameChar d = true := by
  cases cs with
  | nil => cases h
  | cons c cs =>
    rw [nameBeforeColon?] at h
    split_ifs at h with hname
    obtain rfl := Option.some.inj h
    exact ⟨c, _, String.toList_ofList, (Bool.and_eq_true_iff.1 hname).1, fun d hd => List.mem_takeWhile_imp hd⟩

theorem exists_of_serviceName? {l : Line} (h : serviceName? l = some name) :
    ∃ c rest, name.toList = c :: rest ∧ isWord c = true ∧ ∀ d ∈ rest, isNameChar d = true := by
  obtain ⟨indent, cs, -, -, -, hcs⟩ := exists_indent h
  exact exists_of_nameBeforeColon? hcs

theorem exists_serviceName?_of_mem {b : Block} {under : Bool} {ls : List Line} (hb : b ∈ blocksFrom under ls) :
    ∃ l ∈ ls, serviceName? l = some b.name := by
  -- on the lines, wherever they stand, as whether they are under the services changes on the way
  induction ls generalizing under with
  | nil => cases hb
  | cons l ls ih =>
    have hrest : ∀ {under}, b ∈ blocksFrom under ls → ∃ l' ∈ l :: ls, serviceName? l' = some b.name := by
      intro under hb
      obtain ⟨l', hl', hname⟩ := ih hb
      exact ⟨l', List.mem_cons_of_mem l hl', hname⟩
    rw [blocksFrom_cons] at hb
    split at hb
    · exact hrest hb
    · rcases List.mem_append.1 hb with hb | hb
      · split at hb
        · obtain ⟨name, hname, rfl⟩ := List.mem_map.1 hb
          exact ⟨l, List.mem_cons_self, Option.mem_toList.1 hname⟩
        · cases hb
      · exact hrest hb

theorem exists_of_mem_names (h : name ∈ names (services text)) :
    ∃ c rest, name.toList = c :: rest ∧ isWord c = true ∧ ∀ d ∈ rest, isNameChar d = true := by
  obtain ⟨s, hs, rfl⟩ := List.mem_map.1 h
  rw [services_eq_blocks] at hs
  obtain ⟨b, hb, rfl⟩ := List.mem_map.1 hs
  obtain ⟨l, -, hname⟩ := exists_serviceName?_of_mem hb
  rw [b.name_service]
  exact exists_of_serviceName? hname

/-! ### Identifiers among them -/

theorem isNext_separated_iff (hc : isNameChar c = true) : isNext (separated c) = true ↔ c.toNat < 128 := by
  -- of the word characters, names of instances have the ASCII ones; these are few enough to try them all
  have hall : ∀ n : Fin 128, isNameChar (Char.ofNat n) = true → isNext (separated (Char.ofNat n)) = true := by decide
  constructor
  · intro h
    rw [separated] at h
    split at h
    · rename_i hseparator
      rcases hseparator with rfl | rfl <;> decide
    · rw [isNext, Bool.or_eq_true, decide_eq_true_eq] at h
      rcases h with halphanum | rfl
      · exact lt_of_isAlphanum halphanum
      · decide
  · exact fun hascii => of_ascii (P := fun c => isNameChar c = true → isNext (separated c) = true) hall hascii hc

theorem isFirst_iff_of_isWord (hc : isWord c = true) : isFirst c = true ↔ c.toNat < 128 ∧ c.isDigit = false := by
  have hall : ∀ n : Fin 128, isWord (Char.ofNat n) = true →
      (isFirst (Char.ofNat n) = true ↔ (Char.ofNat n).isDigit = false) := by decide
  constructor
  · intro h
    have hascii : c.toNat < 128 := by
      rw [isFirst, Bool.or_eq_true, decide_eq_true_eq] at h
      rcases h with halpha | rfl
      · exact lt_of_isAlphanum (by rw [Char.isAlphanum, halpha, Bool.true_or])
      · decide
    exact ⟨hascii, (of_ascii (P := fun c => isWord c = true → (isFirst c = true ↔ c.isDigit = false))
      hall hascii hc).1 h⟩
  · rintro ⟨hascii, hdigit⟩
    exact (of_ascii (P := fun c => isWord c = true → (isFirst c = true ↔ c.isDigit = false)) hall hascii hc).2 hdigit

theorem sanitizeServiceName_mem_keywords_iff : sanitizeServiceName name ∈ keywords ↔ name ∈ keywords := by
  have hkept : ∀ c, separated c = c ∨ separated c = '_' := fun c => (ite_eq_or_eq ..).symm
  have hlower : ∀ c : Char, c.isLower = true → separated c = c := by
    intro c hc
    refine if_neg ?_
    rintro (rfl | rfl) <;> exact absurd hc (by decide)
  have hmap := map_mem_keywords_iff name.toList hkept hlower
  rwa [← sanitizeServiceName_eq, String.ofList_toList, String.ofList_toList] at hmap

/-- The name of a service becomes an identifier exactly if it is plain. -/
theorem isIdentifier_sanitizeServiceName_iff (h : name ∈ names (services text)) :
    isIdentifier (sanitizeServiceName name) = true ↔ IsPlain name := by
  obtain ⟨c, rest, hname, hc, hrest⟩ := exists_of_mem_names h
  -- the first character is a word character, which stays
  have hseparated : separated c = c := by
    refine if_neg ?_
    rintro (rfl | rfl)
    · exact absurd hc (by decide)
    · exact absurd hc (by decide)
  have hshape : hasShape (sanitizeServiceName name).toList = true ↔
      (∀ d ∈ name.toList, d.toNat < 128) ∧ ∀ d ∈ name.toList.head?, d.isDigit = false := by
    rw [sanitizeServiceName_eq, hname, List.map_cons, hseparated, hasShape, Bool.and_eq_true,
      isFirst_iff_of_isWord hc, List.all_map, List.all_eq_true, List.forall_mem_cons]
    have hall : (∀ d ∈ rest, (isNext ∘ separated) d = true) ↔ ∀ d ∈ rest, d.toNat < 128 :=
      forall₂_congr fun d hd => isNext_separated_iff (hrest d hd)
    rw [hall, and_right_comm]
    simp
  -- a line feed at the end would be passed over
  have hbreak : '\n' ∉ (sanitizeServiceName name).toList := by
    have hkept : ∀ d ∈ name.toList, isNameChar d = true := by
      rw [hname, List.forall_mem_cons, isNameChar, hc]
      exact ⟨rfl, hrest⟩
    rw [sanitizeServiceName_eq]
    intro hmem
    obtain ⟨d, hd, hseparated⟩ := List.mem_map.1 hmem
    have hnot := hkept d hd
    rw [separated] at hseparated
    split at hseparated
    · exact absurd hseparated (by decide)
    · subst hseparated
      exact absurd hnot (by decide)
  rw [isIdentifier, dropFinalBreak_of_not_mem hbreak, Bool.and_eq_true, hshape, Bool.not_eq_true',
    ← Bool.not_eq_true, List.contains_iff_mem, sanitizeServiceName_mem_keywords_iff]
  exact ⟨fun h => ⟨h.1.1, h.1.2, h.2⟩, fun h => ⟨⟨h.ascii, h.first⟩, h.not_keyword⟩⟩

end Compose

/-! ## The name in a Dockerfile -/

namespace Dockerfile

variable {fileName : String} {image : Option String} {c : Char} {cs : List Char}

/-- The text that a name is made from: of the file name, or else of the base image. -/
def nameSource (fileName : String) (image : Option String) : List Char :=
  match stem fileName.toList with
  | [] => ((image.map fun image => repository image.toList)).getD []
  | stem => stem

/-- Small letters and digits, and what is between them. -/
def bareName (fileName : String) (image : Option String) : List Char :=
  trimBy (fun c => !Naming.isImageChar c) (lower (nameSource fileName image))

/-- The character that becomes part of the name of an instance. -/
def nameChar (c : Char) : Char :=
  if isNameChar c then c else '_'

theorem nameChar_eq_underscore_iff : nameChar c = '_' ↔ Naming.isImageChar c = false := by
  rw [nameChar, isNameChar, Naming.isImageChar]
  by_cases hc : c = '_'
  · subst hc
    decide
  · cases c.isLower || c.isDigit <;> simp [hc]

theorem trimBy_map {p q : Char → Bool} {f : Char → Char} (h : ∀ c, p (f c) = q c) :
    trimBy p (cs.map f) = (trimBy q cs).map f := by
  have hcomp : p ∘ f = q := funext h
  rw [trimBy, trimBy, List.dropWhile_map, hcomp, ← List.map_reverse, List.dropWhile_map, hcomp, List.map_reverse]

theorem instanceName_eq_trimBy (fileName : String) (image : Option String) : instanceName fileName image =
    Naming.orElse "container" (trimBy (· = '_') ((lower (nameSource fileName image)).map nameChar)) := by
  unfold instanceName nameSource
  cases stem fileName.toList with
  | nil =>
    generalize (image.map fun image => repository image.toList).getD [] = cs
    rfl
  | cons c cs => rfl

/-- The name is the bare name, with underscores in it. -/
theorem instanceName_eq (fileName : String) (image : Option String) :
    instanceName fileName image = Naming.orElse "container" ((bareName fileName image).map nameChar) := by
  have hname : trimBy (· = '_') ((lower (nameSource fileName image)).map nameChar) =
      (bareName fileName image).map nameChar := by
    refine trimBy_map fun c => ?_
    rw [Bool.eq_iff_iff, decide_eq_true_eq, nameChar_eq_underscore_iff, Bool.not_eq_true']
  rw [instanceName_eq_trimBy, hname]

theorem nameChar_of_isLower (hc : c.isLower = true) : nameChar c = c := by
  rw [nameChar, isNameChar, hc]
  rfl

theorem isNext_nameChar (c : Char) : isNext (nameChar c) = true := by
  rw [nameChar]
  split
  · rename_i hc
    simp only [isNameChar, Bool.or_eq_true, decide_eq_true_eq] at hc
    unfold isNext Char.isAlphanum Char.isAlpha
    simp only [Bool.or_eq_true, decide_eq_true_eq]
    rcases hc with (hc | hc) | hc <;> simp [hc]
  · decide

/-- No digit begins the name, and it is no keyword. -/
def HasPlainName (fileName : String) (image : Option String) : Prop :=
  (∀ c ∈ (bareName fileName image).head?, c.isDigit = false) ∧ String.ofList (bareName fileName image) ∉ keywords

theorem isIdentifier_instanceName_iff :
    isIdentifier (instanceName fileName image) = true ↔ HasPlainName fileName image := by
  have hkept : ∀ c, nameChar c = c ∨ nameChar c = '_' := fun c => ite_eq_or_eq ..
  have hends : ∀ c, (bareName fileName image).head? = some c → Naming.isImageChar c = true := fun c hc =>
    Bool.not_eq_false' _ ▸ ends_trimBy (Or.inl hc)
  have hkeyword := map_mem_keywords_iff (bareName fileName image) hkept fun c => nameChar_of_isLower
  rw [instanceName_eq, Naming.orElse, HasPlainName]
  generalize bareName fileName image = cs at hends hkeyword ⊢
  cases cs with
  | nil => simp; decide
  | cons c rest =>
    -- the bare name begins with a small letter or a digit, for which no underscore stands
    have himage := hends c rfl
    have hc : nameChar c = c := by
      refine (hkept c).resolve_right fun hlow => ?_
      rw [nameChar_eq_underscore_iff, himage] at hlow
      cases hlow
    have hnext : ∀ d ∈ (c :: rest).map nameChar, isNext d = true :=
      List.forall_mem_map.2 fun d _ => isNext_nameChar d
    have hbreak : '\n' ∉ (c :: rest).map nameChar := fun hmem => absurd (hnext '\n' hmem) (by decide)
    have hfirst : isFirst c = true ↔ c.isDigit = false := by
      refine of_isAlphanum (P := fun c => Naming.isImageChar c = true → (isFirst c = true ↔ c.isDigit = false))
        (by decide) ?_ himage
      rw [Naming.isImageChar, Bool.or_eq_true] at himage
      unfold Char.isAlphanum Char.isAlpha
      simp only [Bool.or_eq_true]
      rcases himage with hlower | hdigit
      · exact Or.inl (Or.inr hlower)
      · exact Or.inr hdigit
    rw [if_neg (by simp), isIdentifier, String.toList_ofList, dropFinalBreak_of_not_mem hbreak, Bool.and_eq_true,
      Bool.not_eq_true', ← Bool.not_eq_true, List.contains_iff_mem, hkeyword]
    refine and_congr ?_ Iff.rfl
    rw [List.map_cons, hc, hasShape, Bool.and_eq_true, hfirst, List.all_map]
    simp [isNext_nameChar]

end Dockerfile

/-! ## The rules about names -/

variable {r : Registry} {t : Topology} {s : Sketch} {reserved : List String} {text fileName : String}

/-- An identifier that is no longer than the type allows. -/
def ResourceInstance.HasName (i : ResourceInstance) : Prop :=
  isIdentifier i.name = true ∧ ∀ type, Registry.standard.find? i.resourceType = some type →
    ∀ limit, type.nameLimit? = some limit → i.name.length ≤ limit

theorem ResourceInstance.hasName_iff {i : ResourceInstance} {type : Catalog.ResourceType} {limit : Int}
    (htype : Registry.standard.find? i.resourceType = some type) (hlimit : type.nameLimit? = some limit) :
    i.HasName ↔ isIdentifier i.name = true ∧ i.name.length ≤ limit := by
  simp [HasName, htype, hlimit]

theorem checkNameParameter_eq_nil_iff_of_isIdentifier {i : ResourceInstance} (h : isIdentifier i.name = true) :
    checkNameParameter .standard i = [] ↔ i.HasName := by
  have hne := ne_empty_of_isBlankText (isBlankText_of_isIdentifier h)
  rw [checkNameParameter_eq_nil_iff, ResourceInstance.HasName, and_iff_right h]
  refine forall₂_congr fun type htype => ?_
  constructor
  · intro hcheck limit hlimit
    obtain ⟨p, hp, hmost⟩ := Option.bind_eq_some_iff.1 hlimit
    have hname : p.name = "name" := by simpa using List.find?_some hp
    obtain ⟨most, hsome, hc⟩ := exists_identifier (Registry.mem_types htype).1 (List.mem_of_find?_eq_some hp) hname
    obtain rfl : limit = most := Option.some.inj (hlimit.symm.trans hsome)
    exact ((check_identifier hc hne).1 (hcheck p hp hne)).1
  · intro hshort p hp _
    have hname : p.name = "name" := by simpa using List.find?_some hp
    obtain ⟨limit, hlimit, hc⟩ := exists_identifier (Registry.mem_types htype).1 (List.mem_of_find?_eq_some hp) hname
    exact (check_identifier hc hne).2 ⟨hshort limit hlimit, h⟩

theorem checkNaming_eq_nil_iff : checkNaming r t = [] ↔
    (∀ i ∈ t.instances, checkName r i = [] ∧ checkDatabaseName r i = [] ∧ checkNameParameter r i = []) ∧
      checkDuplicates t = [] ∧ checkVariables r t = [] := by
  simp only [checkNaming, List.append_eq_nil_iff, List.flatMap_eq_nil_iff, and_assoc]

/-- Of instances of known types, without databases, the rules ask for identifiers that are not too long and are
declared as different variables. -/
theorem checkNaming_eq_nil_iff_of_known
    (hknown : ∀ i ∈ t.instances, (Registry.standard.find? i.resourceType).isSome)
    (hdatabase : ∀ i ∈ t.instances, Registry.standard.databaseOf? i = none) :
    checkNaming .standard t = [] ↔ (∀ i ∈ t.instances, i.HasName) ∧
      (t.instances.map fun i => Naming.variableName i.name).Nodup := by
  have hnames : (∀ i ∈ t.instances,
      checkName .standard i = [] ∧ checkDatabaseName .standard i = [] ∧ checkNameParameter .standard i = []) ↔
        ∀ i ∈ t.instances, i.HasName := by
    refine forall₂_congr fun i hi => ?_
    rw [checkName_eq_nil_iff, checkDatabaseName_eq_nil_iff, hdatabase i hi]
    constructor
    · rintro ⟨⟨-, hidentifier⟩, -, hparameter⟩
      exact (checkNameParameter_eq_nil_iff_of_isIdentifier hidentifier).1 hparameter
    · intro h
      exact ⟨⟨isBlankText_of_isIdentifier h.1, h.1⟩, by simp, (checkNameParameter_eq_nil_iff_of_isIdentifier h.1).2 h⟩
  rw [checkNaming_eq_nil_iff, hnames]
  refine and_congr_right fun hall => ?_
  have hvisible : ∀ i ∈ t.instances, isBlankText i.name = false := fun i hi =>
    isBlankText_of_isIdentifier (hall i hi).1
  have hnamed : (t.instances.filter fun i => !isBlankText i.name) = t.instances :=
    List.filter_eq_self.2 fun i hi => by rw [hvisible i hi, Bool.not_false]
  -- without databases, one variable is declared for each instance
  have hvariables : (t.instances.flatMap (declaredFor .standard)).map Declared.name =
      (t.instances.map ResourceInstance.name).map Naming.variableName := by
    rw [map_name_flatMap_declaredFor hvisible, List.filter_eq_self.2 hknown]
    have hsingle : ∀ i ∈ t.instances, i.name :: (Registry.standard.databaseOf? i).toList = [i.name] := fun i hi => by
      rw [hdatabase i hi, Option.toList_none]
    rw [List.flatMap_congr hsingle, ← List.map_eq_flatMap]
  have hsame : (t.instances.map fun i => Naming.variableName i.name) =
      (t.instances.map ResourceInstance.name).map Naming.variableName := by
    rw [List.map_map]
    rfl
  rw [checkDuplicates_eq_nil_iff, hnamed, hsame]
  constructor
  · rintro ⟨hduplicates, hchecked⟩
    rw [← hvariables]
    exact (checkVariables_eq_nil_iff hduplicates).1 hchecked
  · intro hnodup
    -- different variables come from different names
    have hdistinct := List.Nodup.of_map _ hnodup
    rw [← hvariables] at hnodup
    exact ⟨hdistinct, (checkVariables_eq_nil_iff hdistinct).2 hnodup⟩

/-- The same for what is imported from drafts. -/
theorem checkNaming_imported_eq_nil_iff
    (hknown : ∀ d ∈ s.drafts, (Registry.standard.find? d.resourceType).isSome)
    (hdatabase : ∀ d ∈ s.drafts, d.database = none) :
    checkNaming .standard (s.imported reserved).topology = [] ↔
      (∀ d ∈ s.drafts, (d.withId "").HasName) ∧ (s.drafts.map fun d => Naming.variableName d.name).Nodup := by
  have htypes : ∀ i ∈ (s.imported reserved).topology.instances, (Registry.standard.find? i.resourceType).isSome :=
    (Sketch.forall_imported_iff (Q := fun d => (Registry.standard.find? d.resourceType).isSome) fun _ _ => Iff.rfl).2
      hknown
  have hnone : ∀ i ∈ (s.imported reserved).topology.instances, Registry.standard.databaseOf? i = none := by
    refine (Sketch.forall_imported_iff (Q := fun d => Registry.standard.databaseOf? (d.withId "") = none)
      fun _ _ => Iff.rfl).2 fun d hd => ?_
    rw [Option.eq_none_iff_forall_ne_some]
    intro database hsome
    have hsome := (databaseOf?_eq_some_iff.1 hsome).2.1
    cases (hdatabase d hd).symm.trans hsome
  rw [checkNaming_eq_nil_iff_of_known htypes hnone,
    Sketch.forall_imported_iff (Q := fun d => (d.withId "").HasName) fun _ _ => Iff.rfl,
    Sketch.map_imported _ _ (f := fun d => Naming.variableName d.name) fun _ _ => rfl]

/-! ## Imports -/

namespace Compose

open Naming

theorem find?_genericType : (Registry.standard.find? genericType).isSome = true := by
  decide

theorem isSome_of_resourceTypeOf? {name type : String} (h : resourceTypeOf? .standard name = some type) :
    (Registry.standard.find? type).isSome = true := by
  have hproducts : ∀ p ∈ products, (Registry.standard.find? p.2).isSome = true := by decide
  rw [resourceTypeOf?] at h
  split at h
  · rename_i hfound
    rwa [← Option.some.inj h]
  · split at h
    · rename_i found hfound
      obtain rfl := Option.some.inj h
      have hmem : found ∈ Registry.standard.types := List.mem_reverse.1 (List.mem_of_find?_eq_some hfound)
      exact List.find?_isSome.2 ⟨found, hmem, by simp⟩
    · obtain ⟨p, hp, rfl⟩ := Option.map_eq_some_iff.1 h
      exact hproducts p (List.mem_of_find?_eq_some hp)

@[simp] theorem Service.name_draft (r : Registry) (s : Service) : (s.draft r).name = sanitizeServiceName s.name := by
  rw [draft]

theorem isSome_resourceType_draft (s : Service) :
    (Registry.standard.find? (s.draft .standard).resourceType).isSome = true := by
  rw [Service.draft]
  cases htype : resourceTypeOf? .standard s.product with
  | none => exact find?_genericType
  | some type => exact isSome_of_resourceTypeOf? htype

/-- Only what separates the words of a name is replaced. -/
theorem splitAll_separated (cs : List Char) :
    splitAll (fun c => !c.isAlphanum) (cs.map separated) = splitAll (fun c => !c.isAlphanum) cs := by
  induction cs with
  | nil => rfl
  | cons c cs ih =>
    rw [List.map_cons, splitAll, splitAll, ih]
    by_cases hc : c = '-' ∨ c = '.'
    · have hlow : separated c = '_' := if_pos hc
      rcases hc with rfl | rfl <;> rw [hlow, if_pos (by decide), if_pos (by decide)]
    · have hkept : separated c = c := if_neg hc
      rw [hkept]

theorem variableName_sanitizeServiceName (name : String) :
    variableName (sanitizeServiceName name) = variableName name := by
  rw [variableName, sanitizeServiceName_eq, asciiWords, splitAll_separated]
  rfl

theorem length_sanitizeServiceName (name : String) : (sanitizeServiceName name).length = name.length := by
  rw [← String.length_toList, sanitizeServiceName_eq, List.length_map, String.length_toList]

end Compose

/-- The name of a service is no longer than its type allows. -/
def Compose.Service.IsShort (s : Service) : Prop :=
  ∀ type, Registry.standard.find? (s.draft .standard).resourceType = some type →
    ∀ limit, type.nameLimit? = some limit → s.name.length ≤ limit

namespace Compose

open Naming

theorem names_imported (r : Registry) (reserved : List String) (text : String) :
    ((Sketch.ofCompose r text).imported reserved).topology.instances.map ResourceInstance.name =
      (names (services text)).map sanitizeServiceName := by
  rw [Sketch.map_imported _ _ (f := Draft.name) fun _ _ => rfl, drafts_ofCompose]
  simp only [names, List.map_map, Function.comp_def, Service.name_draft]

/-- The names are identifiers exactly if those of the services are plain. -/
theorem forall_isIdentifier_imported_iff : (∀ i ∈ ((Sketch.ofCompose r text).imported reserved).topology.instances,
    isIdentifier i.name = true) ↔ ∀ name ∈ names (services text), IsPlain name := by
  rw [← List.forall_mem_map (P := fun name => isIdentifier name = true), names_imported, List.forall_mem_map]
  exact forall₂_congr fun name hname => isIdentifier_sanitizeServiceName_iff hname

/-- The names are different exactly if no two of those of the services are alike. -/
theorem nodup_imported_iff :
    (((Sketch.ofCompose r text).imported reserved).topology.instances.map ResourceInstance.name).Nodup ↔
      (names (services text)).Pairwise fun name name' => ¬ Alike name name' := by
  rw [names_imported, List.Nodup, List.pairwise_map]
  simp only [Ne, sanitizeServiceName_eq_iff]

/-- The rules about names ask for plain names that are not too long and stand for different variables. -/
theorem checkNaming_imported_iff :
    checkNaming .standard ((Sketch.ofCompose .standard text).imported reserved).topology = [] ↔
      (∀ s ∈ services text, IsPlain s.name ∧ s.IsShort) ∧ ((names (services text)).map variableName).Nodup := by
  have hdrafts := drafts_ofCompose .standard text
  have hknown : ∀ d ∈ (Sketch.ofCompose .standard text).drafts, (Registry.standard.find? d.resourceType).isSome := by
    rw [hdrafts, List.forall_mem_map]
    exact fun s _ => isSome_resourceType_draft s
  have hdatabase : ∀ d ∈ (Sketch.ofCompose .standard text).drafts, d.database = none := by
    rw [hdrafts, List.forall_mem_map]
    exact fun _ _ => rfl
  have hvariables : ((services text).map (Service.draft .standard)).map (fun d => variableName d.name) =
      (names (services text)).map variableName := by
    simp only [names, List.map_map, Function.comp_def, Service.name_draft, variableName_sanitizeServiceName]
  rw [checkNaming_imported_eq_nil_iff hknown hdatabase, hdrafts, hvariables, List.forall_mem_map]
  refine and_congr_left fun _ => forall₂_congr fun s hs => and_congr ?_ ?_
  · exact isIdentifier_sanitizeServiceName_iff (List.mem_map_of_mem hs)
  · have hlength : ((s.draft .standard).withId "").name.length = s.name.length := by
      rw [Draft.withId, Service.name_draft, length_sanitizeServiceName]
    rw [hlength, Draft.withId, Service.IsShort]

end Compose

theorem Dockerfile.checkNaming_imported_iff :
    checkNaming .standard ((Sketch.ofDockerfile fileName text).imported reserved).topology = [] ↔
      HasPlainName fileName (Build.ofText text).baseImage ∧
        (instanceName fileName (Build.ofText text).baseImage).length ≤ 128 := by
  have hlimit : (Registry.standard.find? "container").bind Catalog.ResourceType.nameLimit? = some 128 := by decide
  obtain ⟨type, htype, hlimit⟩ := Option.bind_eq_some_iff.1 hlimit
  obtain ⟨d, hd, hdtype, hdname, hdatabase⟩ : ∃ d, (Sketch.ofDockerfile fileName text).drafts = [d] ∧
      d.resourceType = "container" ∧ d.name = instanceName fileName (Build.ofText text).baseImage ∧
        d.database = none :=
    ⟨(Build.ofText text).draft fileName, rfl, rfl, by rw [Build.draft], rfl⟩
  have hknown : (Registry.standard.find? d.resourceType).isSome = true := by
    rw [hdtype, htype, Option.isSome_some]
  have htype : Registry.standard.find? (d.withId "").resourceType = some type := by
    rw [← htype, ← hdtype]
    rfl
  have hname : (d.withId "").HasName ↔ isIdentifier d.name = true ∧ (d.name.length : Int) ≤ 128 :=
    ResourceInstance.hasName_iff htype hlimit
  rw [checkNaming_imported_eq_nil_iff (by simpa [hd] using hknown) (by simpa [hd] using hdatabase), hd,
    List.map_singleton, and_iff_left (List.nodup_singleton _), List.forall_mem_singleton, hname, hdname,
    isIdentifier_instanceName_iff]
  exact and_congr_right fun _ => by omega

open Compose Dockerfile

/-- Names of services become identifiers if they are plain, and different names if they are not alike. The rules
about names find nothing if, moreover, no name is too long and the variables that are declared for them differ. The
name of a Dockerfile is an identifier if no digit begins it and it is no keyword, and passes the rules if it is
not too long either. All of this holds the other way round, too. -/
theorem imported_names_usable_iff (r : Registry) (reserved : List String) (fileName text : String) :
    (∃ found, Format.compose.read r reserved fileName text = .ok found ∧
      ((∀ i ∈ found.topology.instances, isIdentifier i.name = true) ↔ ∀ name ∈ names (services text), IsPlain name) ∧
      ((found.topology.instances.map ResourceInstance.name).Nodup ↔
        (names (services text)).Pairwise fun name name' => ¬ Alike name name')) ∧
    (∃ found, Format.compose.read .standard reserved fileName text = .ok found ∧
      (checkNaming .standard found.topology = [] ↔ (∀ s ∈ services text, IsPlain s.name ∧ s.IsShort) ∧
        ((names (services text)).map Naming.variableName).Nodup)) ∧
    (∀ image, isIdentifier (instanceName fileName image) = true ↔ HasPlainName fileName image) ∧
    ∃ found, Format.dockerfile.read .standard reserved fileName text = .ok found ∧
      (checkNaming .standard found.topology = [] ↔ HasPlainName fileName (Build.ofText text).baseImage ∧
        (instanceName fileName (Build.ofText text).baseImage).length ≤ 128) :=
  ⟨⟨_, Format.read_eq rfl, forall_isIdentifier_imported_iff, nodup_imported_iff⟩,
    ⟨_, Format.read_eq rfl, Compose.checkNaming_imported_iff⟩, fun _ => isIdentifier_instanceName_iff,
    _, Format.read_eq rfl, Dockerfile.checkNaming_imported_iff⟩

/-- Services under different names: a digit begins one, one is a keyword, one has a letter that is not ASCII, and
two are alike. -/
def oddText : String :=
  "services:\n  2fa:\n  class:\n  café:\n  a-b:\n  a_b:\n"

theorem names_oddText : names (services oddText) = ["2fa", "class", "café", "a-b", "a_b"] := by
  decide +kernel

theorem oddText_names_unusable :
    ∃ found, Format.compose.read .standard [] "" oddText = .ok found ∧ (names (services oddText)).Nodup ∧
      found.topology.instances.map ResourceInstance.name = ["2fa", "class", "café", "a_b", "a_b"] ∧
      (∀ name ∈ ["2fa", "class", "café"], isIdentifier name = false) ∧
      ¬ (found.topology.instances.map ResourceInstance.name).Nodup ∧
      checkNaming .standard found.topology ≠ [] ∧
      instanceName "2048.Dockerfile" none = "2048" ∧ instanceName "Dockerfile" (some "acme/class:1") = "class" ∧
      ∀ name ∈ ["2048", "class"], isIdentifier name = false := by
  have hnames : ((Sketch.ofCompose .standard oddText).imported []).topology.instances.map ResourceInstance.name =
      ["2fa", "class", "café", "a_b", "a_b"] := by
    rw [names_imported, names_oddText]
    decide
  refine ⟨_, Format.read_eq rfl, by rw [names_oddText]; decide, hnames, by decide, by rw [hnames]; decide, ?_,
    by decide, by decide, by decide⟩
  rw [Ne, Compose.checkNaming_imported_iff, names_oddText]
  exact fun h => absurd h.2 (by decide)

end HostTopology
