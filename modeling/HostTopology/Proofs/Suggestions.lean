import HostTopology.Proofs.Acceptance
import HostTopology.Proofs.Identifiers
import HostTopology.Proofs.Issues

/-!
# Suggestions — names and keys that are suggested in place of others

Validation suggests an identifier for a name or database that is none, and a key in capitals for an environment
variable with another. Most suggestions are accepted in their turn:

* `isIdentifier_suggestIdentifier_iff` — all suggested names but keywords, which are suggested as they are;
* `accepts_suggestEnvKey_iff` — all suggested keys but those that a digit begins;
* `Topology.Clears` — a topology in which an instance has been replaced, so that a rule finds nothing at its id;
* `suggestions_cleared_iff` — whoever follows a suggestion gets rid of the issue that it is from, exactly then.
-/

namespace HostTopology

/-! ## Digits in upper case -/

namespace Text

theorem isDigit_ofNat {n : Nat} (h : 57 < n) : (Char.ofNat n).isDigit = false := by
  have hdigit : ∀ c : Char, c.isDigit = true → c.toNat ≤ 57 := by
    intro c hc
    rw [Char.isDigit, Bool.and_eq_true, decide_eq_true_eq, decide_eq_true_eq] at hc
    exact hc.2
  by_cases hvalid : n.isValidChar
  -- a number that is no code stands for the character 0
  · rw [Bool.eq_false_iff]
    intro hc
    have hcode : (Char.ofNat n).toNat = n := by
      rw [Char.ofNat, dif_pos hvalid]
      rfl
    have hle := hdigit _ hc
    omega
  · rw [Char.ofNat, dif_neg hvalid]
    rfl

/-- Upper case begins with a digit only where the character is that digit. -/
theorem exists_upperChar (c : Char) : ∃ d cs, upperChar c = d :: cs ∧ d.isDigit = c.isDigit := by
  rw [upperChar]
  split
  · rename_i hascii
    have hall : ∀ n : Fin 128, (Char.ofNat n).toUpper.isDigit = (Char.ofNat n).isDigit := by decide
    exact ⟨c.toUpper, [], rfl, of_ascii (P := fun c => c.toUpper.isDigit = c.isDigit) hall hascii⟩
  · rename_i hascii
    have hdigit : c.isDigit = false := by
      have hlarge := isDigit_ofNat (n := c.toNat) (by omega)
      rwa [Char.ofNat_toNat] at hlarge
    have hexpansions : ∀ e ∈ upperExpansions, ∃ n ∈ e.2.head?, 57 < n := by decide +kernel
    have hruns : ∀ run ∈ upperRuns, 57 < (run.1 : Int) + run.2.2.2 := by decide +kernel
    split
    · rename_i codes hfound
      obtain ⟨n, hn, hlarge⟩ := hexpansions _ (List.mem_of_find?_eq_some hfound)
      obtain ⟨rest, rfl⟩ := List.head?_eq_some_iff.1 hn
      exact ⟨Char.ofNat n, rest.map Char.ofNat, rfl, by rw [hdigit, isDigit_ofNat hlarge]⟩
    · refine ⟨_, [], rfl, ?_⟩
      cases hrun : inRun? upperRuns c.toNat with
      | none => rfl
      | some n =>
        obtain ⟨⟨first, last, step, offset⟩, hmem, hfound⟩ := List.exists_of_findSome?_eq_some hrun
        -- every run of small letters is mapped behind the digits
        have hstart : 57 < (first : Int) + offset := hruns _ hmem
        have hlarge : 57 < n := by
          obtain ⟨hrange, hn⟩ := Option.ite_none_right_eq_some.1 hfound
          have hvalue := Option.some.inj hn
          omega
        rw [hdigit]
        exact isDigit_ofNat hlarge

end Text

/-! ## Suggested names -/

namespace Naming

open Identifier Text Catalog

variable {name key : String}

/-- A row of word characters becomes a word, whatever it begins with. -/
theorem isShaped_orElse {cs : List Char} (h : ∀ c ∈ cs, isNext c = true) :
    IsShaped (orElse "resource" (guardDigit '_' cs)).toList := by
  rw [← hasShape_iff]
  cases cs with
  | nil => rfl
  | cons c cs =>
    obtain ⟨hc, hcs⟩ := List.forall_mem_cons.1 h
    by_cases hdigit : c.isDigit = true
    · simpa [orElse, guardDigit, hdigit, hasShape, hc, isFirst] using hcs
    · have hfirst : isFirst c = true := by
        simp only [isNext, Char.isAlphanum, hdigit, Bool.or_false] at hc
        exact hc
      simpa [orElse, guardDigit, hdigit, hasShape, hfirst] using hcs

theorem isShaped_suggestIdentifier (name : String) : IsShaped (suggestIdentifier name).toList := by
  refine isShaped_orElse fun d hd => ?_
  obtain ⟨c, -, rfl⟩ := List.mem_map.1 hd
  split
  · assumption
  · decide

theorem isBlankText_suggestIdentifier : Validation.isBlankText (suggestIdentifier name) = false :=
  (isShaped_suggestIdentifier name).isBlankText

/-- Where nothing had to be put in, the suggestion is the name. -/
theorem suggestIdentifier_eq_self (hlow : '_' ∉ (suggestIdentifier name).toList)
    (hdefault : suggestIdentifier name ≠ "resource") : suggestIdentifier name = name := by
  rw [suggestIdentifier] at hlow hdefault ⊢
  generalize hcs : (name.toList.map fun c => if isNext c then c else '_') = cs at hlow hdefault ⊢
  rw [guardDigit] at hlow hdefault ⊢
  split at hlow
  · simp [orElse] at hlow
  · rename_i hdigit
    rw [if_neg hdigit] at hdefault ⊢
    rw [orElse] at hlow hdefault ⊢
    split at hlow
    · rename_i hnil
      exact absurd (if_pos hnil) hdefault
    · rename_i hne
      rw [String.toList_ofList] at hlow
      rw [if_neg hne, ← String.toList_inj, String.toList_ofList, ← hcs]
      -- every character is kept
      conv_rhs => rw [← List.map_id name.toList]
      refine List.map_congr_left fun c hc => ?_
      by_cases hnext : isNext c = true
      · simp [hnext]
      · exact absurd (hcs ▸ List.mem_map.2 ⟨c, hc, if_neg hnext⟩) hlow

theorem suggestIdentifier_mem_keywords_iff : suggestIdentifier name ∈ keywords ↔ name ∈ keywords := by
  -- keywords consist of letters, and the word for the empty name is none
  have hkeywords : ∀ word ∈ keywords, suggestIdentifier word = word ∧ '_' ∉ word.toList ∧ word ≠ "resource" := by
    decide
  constructor
  · intro h
    obtain ⟨-, hlow, hdefault⟩ := hkeywords _ h
    rwa [suggestIdentifier_eq_self hlow hdefault] at h
  · intro h
    rwa [(hkeywords _ h).1]

/-- A suggestion is accepted unless the name is a keyword. -/
theorem isIdentifier_suggestIdentifier_iff : isIdentifier (suggestIdentifier name) = true ↔ name ∉ keywords := by
  have hshaped := isShaped_suggestIdentifier name
  rw [isIdentifier_of_not_mem hshaped.lineFeed_not_mem, ← suggestIdentifier_mem_keywords_iff]
  exact ⟨IsName.not_keyword, IsName.mk hshaped⟩

/-! ## Suggested keys -/

/-- What stands in a suggestion for a character of the key in capitals. -/
def keyChar (c : Char) : Char :=
  if isEnvKeyChar c then c else '_'

theorem suggestEnvKey_eq (key : String) : (suggestEnvKey key).toList = (upper key.toList).map keyChar := by
  rw [suggestEnvKey, String.toList_ofList]
  rfl

theorem keyChar_cases (c : Char) : keyChar c = '_' ∧ c.isDigit = false ∨ keyChar c = c ∧ isEnvKeyChar c = true := by
  rw [keyChar]
  split
  · exact Or.inr ⟨rfl, ‹_›⟩
  · rename_i hc
    rw [isEnvKeyChar, Bool.not_eq_true, Bool.or_eq_false_iff] at hc
    exact Or.inl ⟨rfl, hc.2⟩

theorem accepts_keyChar (c : Char) :
    ((keyChar c).isUpper || (keyChar c).isDigit || decide (keyChar c = '_')) = true := by
  rcases keyChar_cases c with ⟨hchar, -⟩ | ⟨hchar, hkey⟩
  · rw [hchar]
    rfl
  · rw [isEnvKeyChar] at hkey
    rw [hchar, hkey, Bool.true_or]

/-- A suggestion begins with a digit only where the key does in capitals. -/
theorem begins_keyChar (c : Char) : ((keyChar c).isUpper || decide (keyChar c = '_')) = !c.isDigit := by
  have hall : ∀ n : Fin 128, (Char.ofNat n).isAlphanum = true → isEnvKeyChar (Char.ofNat n) = true →
      ((Char.ofNat n).isUpper || decide (Char.ofNat n = '_')) = !(Char.ofNat n).isDigit := by decide
  rcases keyChar_cases c with ⟨hchar, hdigit⟩ | ⟨hchar, hkey⟩
  · rw [hchar, hdigit]
    rfl
  · have halphanum : c.isAlphanum = true := by
      rw [isEnvKeyChar, Bool.or_eq_true] at hkey
      unfold Char.isAlphanum Char.isAlpha
      rcases hkey with hkey | hkey <;> simp [hkey]
    rw [hchar]
    exact of_isAlphanum (P := fun c => isEnvKeyChar c = true → (c.isUpper || decide (c = '_')) = !c.isDigit)
      hall halphanum hkey

theorem lineFeed_not_mem_suggestEnvKey (key : String) : '\n' ∉ (suggestEnvKey key).toList := by
  rw [suggestEnvKey_eq]
  intro hmem
  obtain ⟨c, -, hc⟩ := List.mem_map.1 hmem
  have haccepts := accepts_keyChar c
  rw [hc] at haccepts
  cases haccepts

/-- A suggestion is accepted unless a digit begins the key. -/
theorem accepts_suggestEnvKey_iff (hne : key ≠ "") :
    Pattern.envKey.accepts (suggestEnvKey key) = true ↔ ∀ c ∈ key.toList.head?, c.isDigit = false := by
  rw [Pattern.accepts, dropFinalBreak_of_not_mem (lineFeed_not_mem_suggestEnvKey key), suggestEnvKey_eq]
  cases hcs : key.toList with
  | nil => exact absurd (String.toList_inj.1 hcs) hne
  | cons c cs =>
    obtain ⟨d, ds, hd, hdigit⟩ := exists_upperChar c
    have hupper : upper (c :: cs) = d :: (ds ++ upper cs) := by
      rw [upper, List.flatMap_cons, hd]
      rfl
    rw [hupper]
    simp [Pattern.isEnvKey, begins_keyChar, accepts_keyChar, hdigit]

theorem suggestEnvKey_ne_empty (hne : key ≠ "") : suggestEnvKey key ≠ "" := by
  rw [Ne, ← String.toList_inj, suggestEnvKey_eq]
  cases hcs : key.toList with
  | nil => exact absurd (String.toList_inj.1 hcs) hne
  | cons c cs =>
    obtain ⟨d, ds, hd, -⟩ := exists_upperChar c
    simp [upper, hd]

end Naming

/-! ## Following a suggestion -/

open Naming Validation

/-- The name or key that a finding suggests, which its suggestion has in quotes. -/
def Validation.Finding.Suggests (f : Finding) (s : String) : Prop :=
  f.suggestion = some ("Try using " ++ quote s ++ " instead") ∨ f.suggestion = some ("Consider renaming to " ++ quote s)

namespace Validation.Finding

theorem suggests_iff {f : Finding} {s s' : String}
    (h : f.suggestion = some ("Try using " ++ quote s' ++ " instead") ∨
      f.suggestion = some ("Consider renaming to " ++ quote s')) : f.Suggests s ↔ s' = s := by
  rcases h with h | h <;> simp [Suggests, h, quote, ← String.toList_inj]

theorem suggests_invalidName_iff {node name s : String} :
    (invalidName node name).Suggests s ↔ suggestIdentifier name = s :=
  suggests_iff (Or.inl rfl)

theorem suggests_invalidDatabase_iff {node database s : String} :
    (invalidDatabase node database).Suggests s ↔ suggestIdentifier database = s :=
  suggests_iff (Or.inl rfl)

theorem suggests_envKey_iff {node key s : String} {n : Nat} :
    (envKey node n key).Suggests s ↔ suggestEnvKey key = s :=
  suggests_iff (Or.inr rfl)

end Validation.Finding

variable {r : Registry} {t u : Topology} {i i' : ResourceInstance} {v : Report}

namespace ResourceInstance

/-- Gives the environment variable at a place another key. -/
def withKey (i : ResourceInstance) (n : Nat) (key : String) : ResourceInstance :=
  { i with config := { i.config with envVars := i.config.envVars.modify n fun e => { e with key := key } } }

end ResourceInstance

namespace Topology

/-- With an instance in place of those with its id, a rule finds nothing about it. -/
def Clears (r : Registry) (t : Topology) (i' : ResourceInstance) (F : String → Finding) : Prop :=
  ∃ u v, t.replaceInstance? i' = some u ∧ u.validate r = .ok v ∧ ∀ text, F text ∉ v.findings

theorem exists_replaceInstance? (hi : i ∈ t.instances) (hid : i'.id = i.id) :
    ∃ u, t.replaceInstance? i' = some u ∧
      ∀ j, j ∈ u.instances ↔ j = i' ∨ j ∈ t.instances ∧ j.id ≠ i'.id := by
  have hfound : (t.find? i'.id).isSome = true := find?_isSome_iff.2 (hid ▸ mem_ids_of_mem hi)
  refine ⟨_, if_pos hfound, fun j => ?_⟩
  rw [List.mem_map]
  constructor
  · rintro ⟨old, hold, rfl⟩
    by_cases h : old.id = i'.id
    · exact Or.inl (if_pos h)
    · exact Or.inr (by simpa [h] using hold)
  · rintro (rfl | ⟨hj, hne⟩)
    · exact ⟨i, hi, if_pos hid.symm⟩
    · exact ⟨j, hj, if_neg hne⟩

/-- Validation still ends in a report where types and ports stay as they are. -/
theorem HasNumerals.of_replaced (h : t.HasNumerals r) (hi : i ∈ t.instances)
    (htype : i'.resourceType = i.resourceType) (hports : i'.config.ports = i.config.ports)
    (hu : ∀ j ∈ u.instances, j = i' ∨ j ∈ t.instances) : u.HasNumerals r := by
  intro j hj
  rcases hu j hj with rfl | hj
  · rw [htype, hports]
    exact h i hi
  · exact h j hj

/-- Only the new instance decides on what is found about its id. -/
theorem clears_iff {F : String → Finding} {P : ResourceInstance → String → Prop} (i' : ResourceInstance)
    (hv : t.validate r = .ok v) (hi : i ∈ t.instances) (hid : i'.id = i.id) (htype : i'.resourceType = i.resourceType)
    (hports : i'.config.ports = i.config.ports)
    (hrule : ∀ (u : Topology) w text, u.validate r = .ok w →
      (F text ∈ w.findings ↔ ∃ j ∈ u.instances, j.id = i.id ∧ P j text)) :
    t.Clears r i' F ↔ ∀ text, ¬ P i' text := by
  obtain ⟨u, hu, hmem⟩ := exists_replaceInstance? hi hid
  have hnumerals : u.HasNumerals r := by
    refine (exists_validate_iff.1 ⟨v, hv⟩).of_replaced hi htype hports fun j hj => ?_
    exact ((hmem j).1 hj).imp_right And.left
  obtain ⟨w, hw⟩ := exists_validate_iff.2 hnumerals
  -- no other instance of the new topology has the id
  have hfindings : ∀ text, F text ∈ w.findings ↔ P i' text := by
    intro text
    rw [hrule u w text hw]
    constructor
    · rintro ⟨j, hj, hjid, hP⟩
      rcases (hmem j).1 hj with rfl | ⟨-, hne⟩
      · exact hP
      · exact absurd (hjid.trans hid.symm) hne
    · exact fun hP => ⟨i', (hmem i').2 (Or.inl rfl), hid, hP⟩
  simp only [← hfindings]
  constructor
  · rintro ⟨u', w', hu', hw', hnot⟩
    obtain rfl := Option.some.inj (hu.symm.trans hu')
    obtain rfl := Except.ok.inj (hw.symm.trans hw')
    exact hnot
  · exact fun hnot => ⟨u, w, hu, hw, hnot⟩

theorem clears_invalidName_iff (hv : t.validate r = .ok v) (hi : i ∈ t.instances) (name : String) :
    t.Clears r (i.rename name) (.invalidName i.id) ↔ isBlankText name = true ∨ isIdentifier name = true := by
  rw [clears_iff (F := .invalidName i.id)
    (P := fun j text => j.name = text ∧ isBlankText text = false ∧ isIdentifier text = false)
    (i.rename name) hv hi rfl rfl rfl fun u w text hw => invalidName_mem_findings_iff hw]
  constructor
  · intro h
    by_contra hnot
    rw [not_or, Bool.not_eq_true, Bool.not_eq_true] at hnot
    exact h name ⟨rfl, hnot⟩
  · rintro h text ⟨rfl, hblank, hidentifier⟩
    rcases h with h | h
    · exact Bool.false_ne_true (hblank.symm.trans h)
    · exact Bool.false_ne_true (hidentifier.symm.trans h)

theorem clears_invalidDatabase_iff (hv : t.validate r = .ok v) (hi : i ∈ t.instances) (database : String) :
    t.Clears r (i.withDatabase (some database)) (.invalidDatabase i.id) ↔
      (r.databaseOf? (i.withDatabase (some database)) = some database → isIdentifier database = true) := by
  rw [clears_iff (F := .invalidDatabase i.id)
    (P := fun j text => r.databaseOf? j = some text ∧ isIdentifier text = false)
    (i.withDatabase (some database)) hv hi rfl rfl rfl fun u w text hw => invalidDatabase_mem_findings_iff hw]
  constructor
  · intro h hdatabase
    by_contra hnot
    exact h database ⟨hdatabase, Bool.not_eq_true _ ▸ hnot⟩
  · rintro h text ⟨hdatabase, hrejects⟩
    obtain rfl : database = text := Option.some.inj (databaseOf?_eq_some_iff.1 hdatabase).2.1
    exact Bool.false_ne_true (hrejects.symm.trans (h hdatabase))

theorem clears_envKey_iff (hv : t.validate r = .ok v) (hi : i ∈ t.instances) {n : Nat} {e : EnvVar}
    (he : i.config.envVars[n]? = some e) (key : String) :
    t.Clears r (i.withKey n key) (.envKey i.id n) ↔
      ((r.categoryOf? i).isSome → key ≠ "" → Catalog.Pattern.envKey.accepts key = true) := by
  have hkey : (i.withKey n key).config.envVars[n]? = some { e with key := key } := by
    simp [ResourceInstance.withKey, he]
  have hcategory : r.categoryOf? (i.withKey n key) = r.categoryOf? i := rfl
  rw [clears_iff (F := .envKey i.id n) (P := fun j text => (r.categoryOf? j).isSome ∧
    (∃ e, j.config.envVars[n]? = some e ∧ e.key = text) ∧ text ≠ "" ∧ Catalog.Pattern.envKey.accepts text = false)
    (i.withKey n key) hv hi rfl rfl rfl fun u w text hw => by
      rw [envKey_mem_findings_iff hw]
      exact exists_congr fun j => and_congr_right fun _ => and_left_comm]
  constructor
  · intro h hsome hne
    by_contra hnot
    exact h key ⟨hcategory ▸ hsome, ⟨_, hkey, rfl⟩, hne, Bool.not_eq_true _ ▸ hnot⟩
  · rintro h text ⟨hsome, ⟨e', he', rfl⟩, hne, hrejects⟩
    obtain rfl := Option.some.inj (hkey.symm.trans he')
    exact Bool.false_ne_true (hrejects.symm.trans (h (hcategory ▸ hsome) hne))

end Topology

/-- A suggested name is accepted unless it is suggested for a keyword, and a suggested key unless it is suggested for
one that a digit begins. Whoever follows the suggestion of an issue gets rid of the issue exactly then. -/
theorem suggestions_cleared_iff (hv : t.validate r = .ok v) :
    (∀ name, isIdentifier (suggestIdentifier name) = true ↔ name ∉ Identifier.keywords) ∧
    (∀ key, key ≠ "" → (Catalog.Pattern.envKey.accepts (suggestEnvKey key) = true ↔
      ∀ c ∈ key.toList.head?, c.isDigit = false)) ∧
    ∀ i ∈ t.instances, ∀ s,
      ((Finding.invalidName i.id i.name).Suggests s →
        (t.Clears r (i.rename s) (.invalidName i.id) ↔ i.name ∉ Identifier.keywords)) ∧
      (∀ database, r.databaseOf? i = some database → (Finding.invalidDatabase i.id database).Suggests s →
        (t.Clears r (i.withDatabase (some s)) (.invalidDatabase i.id) ↔ database ∉ Identifier.keywords)) ∧
      ∀ n e, (r.categoryOf? i).isSome → i.config.envVars[n]? = some e → e.key ≠ "" →
        (Finding.envKey i.id n e.key).Suggests s →
          (t.Clears r (i.withKey n s) (.envKey i.id n) ↔ ∀ c ∈ e.key.toList.head?, c.isDigit = false) := by
  refine ⟨fun _ => isIdentifier_suggestIdentifier_iff, fun _ => accepts_suggestEnvKey_iff, ?_⟩
  refine fun i hi s => ⟨?_, ?_, ?_⟩
  · intro hs
    obtain rfl := Finding.suggests_invalidName_iff.1 hs
    rw [Topology.clears_invalidName_iff hv hi, isBlankText_suggestIdentifier, isIdentifier_suggestIdentifier_iff]
    exact or_iff_right Bool.false_ne_true
  · intro database hdatabase hs
    obtain rfl := Finding.suggests_invalidDatabase_iff.1 hs
    -- the instance with the suggested database still declares one
    have hnew : r.databaseOf? (i.withDatabase (some (suggestIdentifier database))) =
        some (suggestIdentifier database) :=
      databaseOf?_eq_some_iff.2 ⟨(databaseOf?_eq_some_iff.1 hdatabase).1, rfl,
        ne_empty_of_isBlankText isBlankText_suggestIdentifier⟩
    rw [Topology.clears_invalidDatabase_iff hv hi, isIdentifier_suggestIdentifier_iff]
    exact forall_prop_of_true hnew
  · intro n e hcategory he hne hs
    obtain rfl := Finding.suggests_envKey_iff.1 hs
    rw [Topology.clears_envKey_iff hv hi he, forall_prop_of_true hcategory,
      forall_prop_of_true (suggestEnvKey_ne_empty hne), accepts_suggestEnvKey_iff hne]

/-- A server with a name, a database and an environment variable. -/
def proposed (name database key : String) : Topology where
  instances := [⟨"1", "postgres", name, some database, ⟨[⟨key, "v"⟩], [], [], none, none⟩⟩]
  connections := []

theorem proposed_validate (name database key : String) : ∃ v, (proposed name database key).validate .standard = .ok v :=
  exists_validate_iff.2 fun i hi _ p hp => by
    rw [List.mem_singleton.1 hi] at hp
    cases hp

/-- The issues that are found, and what becomes of them with the suggested texts. -/
theorem proposed_suggestions_cleared :
    ∃ v, (proposed "2fa" "x-y" "api-key").validate .standard = .ok v ∧
      .invalidName "1" "2fa" ∈ v.findings ∧ .invalidDatabase "1" "x-y" ∈ v.findings ∧
      .envKey "1" 0 "api-key" ∈ v.findings ∧ ∀ i ∈ (proposed "2fa" "x-y" "api-key").instances,
        (proposed "2fa" "x-y" "api-key").Clears .standard (i.rename "_2fa") (.invalidName "1") ∧
        (proposed "2fa" "x-y" "api-key").Clears .standard (i.withDatabase (some "x_y")) (.invalidDatabase "1") ∧
        (proposed "2fa" "x-y" "api-key").Clears .standard (i.withKey 0 "API_KEY") (.envKey "1" 0) := by
  obtain ⟨v, hv⟩ := proposed_validate "2fa" "x-y" "api-key"
  refine ⟨v, hv, (invalidName_mem_findings_iff hv).2 ?_, (invalidDatabase_mem_findings_iff hv).2 ?_,
    (envKey_mem_findings_iff hv).2 ?_, fun i hi => ?_⟩
  · exact ⟨_, List.mem_cons_self, by decide⟩
  · exact ⟨_, List.mem_cons_self, by decide⟩
  · exact ⟨_, List.mem_cons_self, by decide, rfl, ⟨⟨"api-key", "v"⟩, rfl, rfl⟩, by decide⟩
  · have hcleared := (suggestions_cleared_iff hv).2.2 i hi
    obtain rfl := List.mem_singleton.1 hi
    have hdatabase : Registry.standard.databaseOf? ⟨"1", "postgres", "2fa", some "x-y", ⟨[⟨"api-key", "v"⟩], [], [],
        none, none⟩⟩ = some "x-y" := databaseOf?_eq_some_iff.2 ⟨by decide, rfl, by decide⟩
    refine ⟨((hcleared "_2fa").1 ?_).2 (by decide), ((hcleared "x_y").2.1 "x-y" hdatabase ?_).2 (by decide),
      ((hcleared "API_KEY").2.2 0 ⟨"api-key", "v"⟩ (by decide) rfl (by decide) ?_).2 (by simp)⟩
    · exact Finding.suggests_invalidName_iff.2 (by decide)
    · exact Finding.suggests_invalidDatabase_iff.2 (by decide)
    · exact Finding.suggests_envKey_iff.2 (by decide)

/-- A keyword is suggested for itself, and a key that a digit begins is in capitals. Neither issue goes away. -/
theorem proposed_suggestions_not_cleared :
    ∃ v, (proposed "class" "for" "1a").validate .standard = .ok v ∧
      .invalidName "1" "class" ∈ v.findings ∧ .invalidDatabase "1" "for" ∈ v.findings ∧
      .envKey "1" 0 "1a" ∈ v.findings ∧ (Finding.invalidName "1" "class").Suggests "class" ∧
      (Finding.invalidDatabase "1" "for").Suggests "for" ∧ (Finding.envKey "1" 0 "1a").Suggests "1A" ∧
      ∀ i ∈ (proposed "class" "for" "1a").instances,
        ¬ (proposed "class" "for" "1a").Clears .standard (i.rename "class") (.invalidName "1") ∧
        ¬ (proposed "class" "for" "1a").Clears .standard (i.withDatabase (some "for")) (.invalidDatabase "1") ∧
        ¬ (proposed "class" "for" "1a").Clears .standard (i.withKey 0 "1A") (.envKey "1" 0) := by
  obtain ⟨v, hv⟩ := proposed_validate "class" "for" "1a"
  refine ⟨v, hv, (invalidName_mem_findings_iff hv).2 ?_, (invalidDatabase_mem_findings_iff hv).2 ?_,
    (envKey_mem_findings_iff hv).2 ?_, Finding.suggests_invalidName_iff.2 (by decide),
    Finding.suggests_invalidDatabase_iff.2 (by decide), Finding.suggests_envKey_iff.2 (by decide), fun i hi => ?_⟩
  · exact ⟨_, List.mem_cons_self, by decide⟩
  · exact ⟨_, List.mem_cons_self, by decide⟩
  · exact ⟨_, List.mem_cons_self, by decide, rfl, ⟨⟨"1a", "v"⟩, rfl, rfl⟩, by decide⟩
  · obtain rfl := List.mem_singleton.1 hi
    refine ⟨fun h => ?_, fun h => ?_, fun h => ?_⟩
    · exact absurd ((Topology.clears_invalidName_iff hv hi "class").1 h) (by decide)
    · exact absurd ((Topology.clears_invalidDatabase_iff hv hi "for").1 h) (by decide)
    · exact absurd ((Topology.clears_envKey_iff hv hi (n := 0) rfl "1A").1 h) (by decide)

end HostTopology
