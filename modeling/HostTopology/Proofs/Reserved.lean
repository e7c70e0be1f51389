import HostTopology.Proofs.Lines
import HostTopology.Proofs.Quoting

/-!
# Reserved — the words that no variable can be

Validation looks for reserved words among the names as they are entered, but what an AppHost declares
are the camel-case images of these names. This file tells which names have a reserved word as their image:

* `IsUsable` — a variable that is neither a keyword nor the builder of the AppHost;
* `bareName` — a name in lower case, without what separates words at its ends;
* `variableName_eq_iff` — a word in small letters is the image of the names whose bare form it is;
* `variables_usable_iff` — an AppHost declares usable variables exactly if all bare names are usable.
-/

namespace HostTopology

open Text

variable {cs xs ys : List Char} {isSep : Char → Bool} {d : Char} {name : String}

/-! ## Separators at the ends -/

namespace Text

theorem splitAll_of_isSep (hys : ∀ c ∈ ys, isSep c = true) :
    splitAll isSep ys = [] :: ys.map fun _ => [] := by
  induction ys with
  | nil => rfl
  | cons y ys ih => rw [splitAll, if_pos (hys y List.mem_cons_self), ih fun c hc => hys c (List.mem_cons_of_mem y hc),
      List.map_cons]

/-- Each separator at the end of a text has an empty piece after it. -/
theorem splitAll_append_of_isSep (hys : ∀ c ∈ ys, isSep c = true) :
    splitAll isSep (xs ++ ys) = splitAll isSep xs ++ ys.map fun _ => [] := by
  cases ys with
  | nil => rw [List.map_nil, List.append_nil, List.append_nil]
  | cons y ys =>
    have hy := hys y List.mem_cons_self
    rw [splitAll_append_sep hy, splitAll_of_isSep fun c hc => hys c (List.mem_cons_of_mem y hc), List.map_cons]

end Text

namespace Naming

theorem asciiWords_cons_of_not (hd : d.isAlphanum = false) : asciiWords (d :: cs) = asciiWords cs := by
  simp [asciiWords, splitAll, hd]

theorem asciiWords_append_of_not (hys : ∀ c ∈ ys, c.isAlphanum = false) :
    asciiWords (xs ++ ys) = asciiWords xs := by
  have hsplit : splitAll (fun c => !c.isAlphanum) (xs ++ ys) =
      splitAll (fun c => !c.isAlphanum) xs ++ ys.map fun _ => [] :=
    splitAll_append_of_isSep (by simpa using hys)
  simp [asciiWords, hsplit]

/-- What separates words counts for nothing at the ends of a name. -/
theorem asciiWords_trimBy (cs : List Char) : asciiWords (trimBy (fun c => !c.isAlphanum) cs) = asciiWords cs := by
  have hleft : ∀ cs, asciiWords (cs.dropWhile fun c => !c.isAlphanum) = asciiWords cs := by
    intro cs
    induction cs with
    | nil => rfl
    | cons c cs ih =>
      by_cases hc : c.isAlphanum = true
      · simp [hc]
      · rw [Bool.not_eq_true] at hc
        simpa [hc, asciiWords_cons_of_not] using ih
  -- on the right only empty pieces are cut off
  have hright : ∀ cs, asciiWords (cs.reverse.dropWhile fun c => !c.isAlphanum).reverse = asciiWords cs := by
    intro cs
    have hcut : ∀ c ∈ (cs.reverse.takeWhile fun c => !c.isAlphanum).reverse, c.isAlphanum = false := by
      intro c hc
      simpa using List.mem_takeWhile_imp (List.mem_reverse.1 hc)
    calc asciiWords (cs.reverse.dropWhile fun c => !c.isAlphanum).reverse
        = asciiWords ((cs.reverse.dropWhile fun c => !c.isAlphanum).reverse
            ++ (cs.reverse.takeWhile fun c => !c.isAlphanum).reverse) := (asciiWords_append_of_not hcut).symm
      _ = asciiWords cs := by
        rw [← List.reverse_append, List.takeWhile_append_dropWhile, List.reverse_reverse]
  exact (hright _).trans (hleft cs)

theorem exists_word_of_mem {c : Char} (hc : c ∈ cs) (hword : c.isAlphanum = true) :
    ∃ w ws, asciiWords cs = w :: ws := by
  refine List.exists_cons_of_ne_nil ?_
  induction cs with
  | nil => exact absurd hc List.not_mem_nil
  | cons x cs ih =>
    by_cases hx : x.isAlphanum = true
    · rcases List.exists_cons_of_ne_nil (splitAll_ne_nil (fun c => !c.isAlphanum) cs) with ⟨piece, pieces, h⟩
      simp [asciiWords, splitAll, hx, h, consFirst]
    · rcases List.mem_cons.1 hc with rfl | hc
      · exact absurd hword hx
      · simpa [asciiWords_cons_of_not (Bool.not_eq_true _ ▸ hx)] using ih hc

/-! ## Names and their variables -/

/-- A name without what separates words at its ends. -/
def core (name : String) : List Char :=
  trimBy (fun c => !c.isAlphanum) name.toList

def bareName (name : String) : String :=
  String.ofList ((core name).map Char.toLower)

/-- A text with a separator, but none at its ends, has a word before the first one and another after it. -/
theorem exists_two_words {cs : List Char}
    (hends : ∀ c, cs.head? = some c ∨ cs.getLast? = some c → c.isAlphanum = true)
    (hsep : ∃ d ∈ cs, d.isAlphanum = false) :
    ∃ w c v ws, asciiWords cs = w :: (c :: v) :: ws ∧ c.isAlphanum = true := by
  have hfind : (cs.find? fun c => !c.isAlphanum).isSome := by simpa [List.find?_isSome] using hsep
  obtain ⟨d, hd⟩ := Option.isSome_iff_exists.1 hfind
  obtain ⟨hnot, before, after, rfl, hbefore⟩ := List.find?_eq_some_iff_append.1 hd
  have hd' : d.isAlphanum ≠ true := by simpa using hnot
  have hne : before ≠ [] := by
    rintro rfl
    exact hd' (hends d (Or.inl rfl))
  -- the text ends with a character of words, which comes after the first separator
  have hlast : ∃ c ∈ after, c.isAlphanum = true := by
    rcases List.eq_nil_or_concat after with rfl | ⟨init, c, rfl⟩
    · exact absurd (hends d (Or.inr (by simp))) hd'
    · exact ⟨c, by simp, hends c (Or.inr (by simp [List.getLast?_append, List.getLast?_cons]))⟩
  rcases hlast with ⟨c, hc, hword⟩
  obtain ⟨w, ws, hwords⟩ := exists_word_of_mem hc hword
  have hw : w ∈ asciiWords after := hwords ▸ List.mem_cons_self
  have hwne : w ≠ [] := by simpa using (List.mem_filter.1 hw).2
  obtain ⟨x, v, rfl⟩ := List.exists_cons_of_ne_nil hwne
  have hsplit : splitAll (fun c => !c.isAlphanum) (before ++ d :: after) =
      before :: splitAll (fun c => !c.isAlphanum) after :=
    splitAll_append_cons (by simpa using hbefore) hnot
  have hafter : (splitAll (fun c => !c.isAlphanum) after).filter (· ≠ []) = (x :: v) :: ws := hwords
  refine ⟨before, x, v, ws, ?_, isAlphanum_asciiWords hw x List.mem_cons_self⟩
  rw [asciiWords, hsplit, List.filter_cons_of_pos (by simpa using hne), hafter]

/-- A name has no word, or one word, which is its core, or more than one, and then its core has a
separator. -/
theorem asciiWords_cases (name : String) :
    (core name = [] ∧ asciiWords name.toList = []) ∨
      (core name ≠ [] ∧ (∀ c ∈ core name, c.isAlphanum = true) ∧ asciiWords name.toList = [core name]) ∨
        ((∃ d ∈ core name, d.isAlphanum = false) ∧
          ∃ w c v ws, asciiWords name.toList = w :: (c :: v) :: ws ∧ c.isAlphanum = true) := by
  have hends : ∀ c, (core name).head? = some c ∨ (core name).getLast? = some c → c.isAlphanum = true := by
    intro c hc
    simpa using ends_trimBy hc
  have hwords : asciiWords name.toList = asciiWords (core name) := (asciiWords_trimBy name.toList).symm
  rw [hwords]
  by_cases hall : ∀ c ∈ core name, c.isAlphanum = true
  · have hsplit : splitAll (fun c => !c.isAlphanum) (core name) = [core name] :=
      splitAll_of_not_isSep (by simpa using hall)
    by_cases hcs : core name = []
    · exact Or.inl ⟨hcs, by simp [asciiWords, hcs, splitAll]⟩
    · exact Or.inr (Or.inl ⟨hcs, hall, by simp [asciiWords, hsplit, hcs]⟩)
  · have hsep : ∃ d ∈ core name, d.isAlphanum = false := by simpa using hall
    exact Or.inr (Or.inr ⟨hsep, exists_two_words hends hsep⟩)

/-- A text in small letters. -/
def IsSmall (s : String) : Prop :=
  s ≠ "" ∧ ∀ c ∈ s.toList, c.isLower = true

theorem IsSmall.ne_of_mem {s word : String} (h : IsSmall word) {c : Char} (hc : c ∈ s.toList)
    (hnot : c.isLower = false) : s ≠ word := by
  rintro rfl
  rw [h.2 c hc] at hnot
  cases hnot

theorem isLower_toLower_of_not (h : d.isAlphanum = false) : d.toLower.isLower = false := by
  unfold Char.isAlphanum Char.isAlpha at h
  simp only [Bool.or_eq_false_iff] at h
  have hself : d.toLower = d := by
    unfold Char.toLower
    have hupper := h.1.1
    unfold Char.isUpper at hupper
    rw [dif_neg]
    simpa using hupper
  rw [hself, h.1.2]

theorem variableName_eq_of_core (hne : core name ≠ []) (hwords : asciiWords name.toList = [core name]) :
    variableName name = String.ofList (guardDigit 'n' ((core name).map Char.toLower)) := by
  have hcamel : camelCase [core name] = (core name).map Char.toLower := by simp [camelCase]
  have hguard : guardDigit 'n' ((core name).map Char.toLower) ≠ [] := by
    rw [guardDigit]
    split
    · exact List.cons_ne_nil _ _
    · simpa using hne
  rw [variableName, hwords, hcamel, orElse, if_neg hguard]

/-- The first letter of a second word stays in the variable, as a capital. -/
theorem mem_variableName {w v : List Char} {c : Char} {ws : List (List Char)}
    (hwords : asciiWords name.toList = w :: (c :: v) :: ws) : c.toUpper ∈ (variableName name).toList := by
  have hmem : c.toUpper ∈ guardDigit 'n' (camelCase (asciiWords name.toList)) := by
    have hcamel : c.toUpper ∈ camelCase (asciiWords name.toList) := by simp [hwords, camelCase, capitalize]
    rw [guardDigit]
    split
    · exact List.mem_cons_of_mem _ hcamel
    · exact hcamel
  rwa [variableName, orElse, if_neg (List.ne_nil_of_mem hmem), String.toList_ofList]

/-- A word in small letters is the variable of the names that have it as their bare form. The one
exception is the variable of names without any word. -/
theorem variableName_eq_iff {word : String} (hword : IsSmall word) (hresource : word ≠ "resource") :
    variableName name = word ↔ bareName name = word := by
  rcases asciiWords_cases name with ⟨hcore, hwords⟩ | ⟨hne, hall, hwords⟩ | ⟨⟨d, hd, hsep⟩, w, c, v, ws, hwords, hc⟩
  · -- without a word the variable is the default, and the bare form is empty
    have hvariable : variableName name = "resource" := by
      simp [variableName, hwords, camelCase, guardDigit, orElse]
    have hbare : bareName name = "" := by simp [bareName, hcore]
    exact iff_of_false (hvariable ▸ hresource.symm) (hbare ▸ hword.1.symm)
  · have hvariable := variableName_eq_of_core hne hwords
    obtain ⟨c, cs, hcs⟩ := List.exists_cons_of_ne_nil hne
    cases hdigit : c.toLower.isDigit with
    | false =>
      -- without a digit in front the variable is the bare form
      have hguard : guardDigit 'n' ((core name).map Char.toLower) = (core name).map Char.toLower := by
        simp [guardDigit, hcs, hdigit]
      rw [hvariable, hguard, bareName]
    | true =>
      -- a digit stands in the variable as well as in the bare form, but in no word of letters
      have hnot : c.toLower.isLower = false := by
        have hc : c.isAlphanum = true := hall c (hcs ▸ List.mem_cons_self)
        exact of_isAlphanum (P := fun c => c.toLower.isDigit = true → c.toLower.isLower = false) (by decide) hc hdigit
      refine iff_of_false (hword.ne_of_mem ?_ hnot) (hword.ne_of_mem ?_ hnot)
      · simp [hvariable, guardDigit, hcs, hdigit]
      · simp [bareName, hcs]
  · -- a second word has a capital in the variable, and a separator before it in the bare form
    have hcapital : c.toUpper.isLower = false :=
      of_isAlphanum (P := fun c => c.toUpper.isLower = false) (by decide) hc
    refine iff_of_false (hword.ne_of_mem (mem_variableName hwords) hcapital)
      (hword.ne_of_mem ?_ (isLower_toLower_of_not hsep))
    rw [bareName, String.toList_ofList]
    exact List.mem_map_of_mem hd

end Naming

/-! ## Variables of an AppHost -/

namespace AppHost

open Naming Validation Catalog

variable {r : Registry} {t : Topology} {i : ResourceInstance} {d : Declaration}

/-- The variable that every AppHost declares for itself. -/
def builderVariable : String := "builder"

/-- A variable that an AppHost can declare beside its own. -/
def IsUsable (v : String) : Prop :=
  v ∉ Identifier.keywords ∧ v ≠ builderVariable

instance (v : String) : Decidable (IsUsable v) :=
  inferInstanceAs (Decidable (_ ∧ _))

theorem isUsable_variableName_iff : IsUsable (variableName name) ↔ IsUsable (bareName name) := by
  -- the words in question are all in small letters
  have hsmall : ∀ word ∈ builderVariable :: Identifier.keywords,
      word ≠ "" ∧ (∀ c ∈ word.toList, c.isLower = true) ∧ word ≠ "resource" := by decide
  have hiff : ∀ word ∈ builderVariable :: Identifier.keywords, (variableName name = word ↔ bareName name = word) :=
    fun word hword => variableName_eq_iff ⟨(hsmall word hword).1, (hsmall word hword).2.1⟩ (hsmall word hword).2.2
  have hkeyword : variableName name ∈ Identifier.keywords ↔ bareName name ∈ Identifier.keywords := by
    constructor
    · intro h
      rwa [(hiff _ (List.mem_cons_of_mem _ h)).1 rfl]
    · intro h
      rwa [(hiff _ (List.mem_cons_of_mem _ h)).2 rfl]
  rw [IsUsable, IsUsable, hkeyword, Ne, hiff builderVariable List.mem_cons_self]

/-- The variables of a declaration. -/
theorem map_name_statements (h : declare? r t i = some d) (hblank : isBlankText i.name = false) :
    d.statements.map Statement.name = variableName i.name :: (r.databaseOf? i).toList.map variableName := by
  have hknown := isSome_find?_of_declare? h
  calc d.statements.map Statement.name
      = ((declare? r t i).toList.flatMap Declaration.statements).map Statement.name := by simp [h]
    _ = (declaredFor r i).map Declared.name := names_of_declare? hblank
    _ = variableName i.name :: (r.databaseOf? i).toList.map variableName := map_name_declaredFor hblank hknown

end AppHost

/-! ## Usable names -/

open AppHost Validation Naming Catalog

variable {r : Registry} {t : Topology} {o : RenderOptions} {a : Artifacts}

/-- An AppHost declares usable variables, for resources and for logical databases, exactly if the bare
forms of all their names are usable. Validation asks this of the names as they are entered. -/
theorem variables_usable_iff (hok : t.compile r o = .ok a) (hblocked : a.isBlocked = false) :
    a.appHost = AppHost.render r t o t.sequence.ordered ∧
      ((∀ i ∈ t.sequence.ordered, ∀ d, declare? r t i = some d → ∀ s ∈ d.statements, IsUsable s.name) ↔
        ∀ i ∈ t.sequence.ordered, (r.find? i.resourceType).isSome →
          IsUsable (bareName i.name) ∧ ∀ database, r.databaseOf? i = some database → IsUsable (bareName database)) := by
  rcases compile_unblocked_iff.1 ⟨hok, hblocked⟩ with ⟨hfaultless, -, rfl⟩
  refine ⟨rfl, forall₂_congr fun i hi => ?_⟩
  have hmem := Topology.mem_of_mem_ordered hi
  have hblank := hfaultless.not_blank hmem
  -- a declaration has the variable of its name and that of its database
  have hnames : ∀ d, declare? r t i = some d → ((∀ s ∈ d.statements, IsUsable s.name) ↔
      IsUsable (bareName i.name) ∧ ∀ database, r.databaseOf? i = some database → IsUsable (bareName database)) := by
    intro d hd
    calc (∀ s ∈ d.statements, IsUsable s.name)
        ↔ ∀ v ∈ d.statements.map Statement.name, IsUsable v := by simp
      _ ↔ IsUsable (variableName i.name) ∧
            ∀ database, r.databaseOf? i = some database → IsUsable (variableName database) := by
          simp [map_name_statements hd hblank]
      _ ↔ IsUsable (bareName i.name) ∧
            ∀ database, r.databaseOf? i = some database → IsUsable (bareName database) := by
          simp only [isUsable_variableName_iff]
  constructor
  · intro h hknown
    rcases Option.isSome_iff_exists.1 (hfaultless.isSome_declare? hmem hknown) with ⟨d, hd⟩
    exact (hnames d hd).1 (h d hd)
  · intro h d hd
    exact (hnames d hd).2 (h (isSome_find?_of_declare? hd))

/-- Caches without connections. -/
def caches (names : List String) : Topology where
  instances := names.map fun name => ⟨name, "redis", name, none, .empty⟩
  connections := []

theorem caches_compile : ∀ names ∈ [["session_cache"], ["New", "Builder"]],
    (caches names).compile .standard .standard =
      .ok (.ofOrdered .standard .standard (caches names) (caches names).sequence.ordered) := by
  have hpasses : ∀ names ∈ [["session_cache"], ["New", "Builder"]], PassesRules .standard (caches names) ∧
      Writable .standard .standard (caches names) (caches names).sequence.ordered := by decide
  intro names hnames
  obtain ⟨hrules, hwritable⟩ := hpasses names hnames
  exact compile_of_passesRules hrules acyclic_nil hwritable

theorem caches_usable : ∃ a, (caches ["session_cache"]).compile .standard .standard = .ok a ∧
    a.isBlocked = false ∧ ∀ i ∈ (caches ["session_cache"]).sequence.ordered,
      ∀ d, declare? .standard (caches ["session_cache"]) i = some d → ∀ s ∈ d.statements, IsUsable s.name := by
  have hok := caches_compile ["session_cache"] (by decide)
  have hbare : ∀ i ∈ (caches ["session_cache"]).sequence.ordered,
      IsUsable (bareName i.name) ∧ Registry.standard.databaseOf? i = none := by decide
  obtain ⟨-, hiff⟩ := variables_usable_iff hok isBlocked_ofOrdered
  refine ⟨_, hok, isBlocked_ofOrdered, hiff.2 fun i hi _ => ⟨(hbare i hi).1, ?_⟩⟩
  intro database hdatabase
  rw [(hbare i hi).2] at hdatabase
  cases hdatabase

/-- Capitals are enough to hide a reserved word from validation. -/
theorem caches_not_usable : ∃ a, (caches ["New", "Builder"]).compile .standard .standard = .ok a ∧
    a.isBlocked = false ∧
      (∃ i ∈ (caches ["New", "Builder"]).sequence.ordered,
        ∃ d, declare? .standard (caches ["New", "Builder"]) i = some d ∧
          ∃ s ∈ d.statements, s.name ∈ Identifier.keywords) ∧
      ∃ i ∈ (caches ["New", "Builder"]).sequence.ordered,
        ∃ d, declare? .standard (caches ["New", "Builder"]) i = some d ∧
          ∃ s ∈ d.statements, s.name = builderVariable := by
  have hok := caches_compile ["New", "Builder"] (by decide)
  have hdeclared : ∀ name ∈ ["New", "Builder"], ∃ i ∈ (caches ["New", "Builder"]).sequence.ordered,
      ∃ d, declare? .standard (caches ["New", "Builder"]) i = some d ∧
        ∃ s ∈ d.statements, s.name = variableName name := by
    have hordered : (caches ["New", "Builder"]).sequence.ordered = (caches ["New", "Builder"]).instances := by
      decide
    rw [hordered]
    intro name hname
    refine ⟨_, List.mem_map_of_mem hname, ?_⟩
    have hname' : name = "New" ∨ name = "Builder" := by simpa using hname
    rcases hname' with rfl | rfl
    · exact ⟨_, rfl, _, List.mem_singleton_self _, rfl⟩
    · exact ⟨_, rfl, _, List.mem_singleton_self _, rfl⟩
  obtain ⟨i, hi, d, hd, s, hs, hname⟩ := hdeclared "New" (by decide)
  have hnew : s.name ∈ Identifier.keywords := by
    rw [hname]
    decide
  exact ⟨_, hok, isBlocked_ofOrdered, ⟨i, hi, d, hd, s, hs, hnew⟩, hdeclared "Builder" (by decide)⟩

end HostTopology
