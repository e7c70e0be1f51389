import HostTopology.Proofs.Characters
import HostTopology.Proofs.Names

/-!
# Identifiers — the texts that are accepted as names

An identifier is a word of ASCII letters, digits and underscores that no digit begins, other than the keywords.
Validation asks for one as the name of every instance and of every database. It does not look at a line feed
behind the last character.

* `Identifier.IsShaped`, `Identifier.IsName` — the words, and the identifiers among them;
* `isIdentifier_iff` — what is accepted: identifiers, and words with a line feed behind them, keywords included;
* `names_spelled_iff` — the names in a topology that code is generated for.
-/

namespace HostTopology
namespace Identifier

open Text

variable {s : String} {cs : List Char} {c : Char}

/-! ## Words -/

def IsLetter (c : Char) : Prop :=
  'a' ≤ c ∧ c ≤ 'z' ∨ 'A' ≤ c ∧ c ≤ 'Z'

/-- A letter, a digit or an underscore. -/
def IsWordChar (c : Char) : Prop :=
  IsLetter c ∨ ('0' ≤ c ∧ c ≤ '9') ∨ c = '_'

/-- A word that a letter or an underscore begins. -/
structure IsShaped (cs : List Char) : Prop where
  first : ∃ c ∈ cs.head?, IsLetter c ∨ c = '_'
  all : ∀ c ∈ cs, IsWordChar c

/-- A name in C#. -/
structure IsName (s : String) : Prop where
  shaped : IsShaped s.toList
  not_keyword : s ∉ keywords

theorem isFirst_iff : isFirst c = true ↔ IsLetter c ∨ c = '_' := by
  unfold isFirst IsLetter Char.isAlpha Char.isUpper Char.isLower
  simp only [Bool.or_eq_true, Bool.and_eq_true, decide_eq_true_eq, ge_iff_le, Char.le_def, or_comm]

theorem isNext_iff : isNext c = true ↔ IsWordChar c := by
  have hdigit : c.isDigit = true ↔ '0' ≤ c ∧ c ≤ '9' := by
    simp only [Char.isDigit, Bool.and_eq_true, decide_eq_true_eq, ge_iff_le, Char.le_def]
  have hnext : isNext c = true ↔ (c.isAlpha = true ∨ c = '_') ∨ c.isDigit = true := by
    simp only [isNext, Char.isAlphanum, Bool.or_eq_true, decide_eq_true_eq, or_right_comm]
  have hfirst : c.isAlpha = true ∨ c = '_' ↔ IsLetter c ∨ c = '_' := by
    rw [← isFirst_iff, isFirst, Bool.or_eq_true, decide_eq_true_eq]
  rw [hnext, hfirst, hdigit, IsWordChar, or_assoc, or_comm (a := c = '_')]

theorem hasShape_iff : hasShape cs = true ↔ IsShaped cs := by
  constructor
  · intro h
    cases cs with
    | nil => cases h
    | cons c cs =>
      simp only [hasShape, Bool.and_eq_true, List.all_eq_true, isFirst_iff, isNext_iff] at h
      refine ⟨⟨c, rfl, h.1⟩, List.forall_mem_cons.2 ⟨?_, h.2⟩⟩
      exact h.1.elim Or.inl fun hlow => Or.inr (Or.inr hlow)
  · rintro ⟨⟨c, hc, hfirst⟩, hall⟩
    cases cs with
    | nil => cases hc
    | cons d cs =>
      obtain rfl := Option.some.inj hc
      simp only [hasShape, Bool.and_eq_true, List.all_eq_true, isFirst_iff, isNext_iff]
      exact ⟨hfirst, fun e he => hall e (List.mem_cons_of_mem _ he)⟩

theorem not_isWordChar_lineFeed : ¬ IsWordChar '\n' := by
  rw [← isNext_iff]
  decide

theorem IsShaped.lineFeed_not_mem (h : IsShaped cs) : '\n' ∉ cs :=
  fun hmem => not_isWordChar_lineFeed (h.all '\n' hmem)

theorem IsShaped.isBlankText (h : IsShaped s.toList) : Validation.isBlankText s = false := by
  obtain ⟨c, hc, -⟩ := h.first
  have hmem : c ∈ s.toList := List.mem_of_head? hc
  have hblank : isBlank c = false := by
    have hnext := isNext_iff.2 (h.all c hmem)
    rw [isNext, Bool.or_eq_true, decide_eq_true_eq] at hnext
    rcases hnext with halphanum | rfl
    · exact isBlank_of_isAlphanum halphanum
    · decide
  rw [Validation.isBlankText, List.all_eq_false]
  exact ⟨c, hmem, Bool.eq_false_iff.1 hblank⟩

/-! ## Texts that are accepted -/

theorem isLower_of_mem_keywords : ∀ word ∈ keywords, ∀ c ∈ word.toList, c.isLower = true := by
  decide

theorem lineFeed_not_mem_keywords : ∀ word ∈ keywords, '\n' ∉ word.toList :=
  fun word hword hmem => absurd (isLower_of_mem_keywords word hword '\n' hmem) (by decide)

/-- Underscores in place of other characters than small letters make no keyword. -/
theorem map_mem_keywords_iff (cs : List Char) {f : Char → Char} (hf : ∀ c, f c = c ∨ f c = '_')
    (hlower : ∀ c, c.isLower = true → f c = c) :
    String.ofList (cs.map f) ∈ keywords ↔ String.ofList cs ∈ keywords := by
  have hsame : (∀ c ∈ cs, f c = c) → String.ofList (cs.map f) = String.ofList cs := fun hall => by
    rw [List.map_congr_left hall, List.map_id']
  constructor
  · intro h
    -- there is no underscore in a keyword, so that every character was kept
    have hletters := isLower_of_mem_keywords _ h
    rw [String.toList_ofList, List.forall_mem_map] at hletters
    have hall : ∀ c ∈ cs, f c = c := by
      intro c hc
      refine (hf c).resolve_right fun hlow => ?_
      exact absurd (hlow ▸ hletters c hc) (by decide)
    rwa [hsame hall] at h
  · intro h
    have hletters := isLower_of_mem_keywords _ h
    rw [String.toList_ofList] at hletters
    rwa [hsame fun c hc => hlower c (hletters c hc)]

theorem isIdentifier_of_not_mem (h : '\n' ∉ s.toList) : isIdentifier s = true ↔ IsName s := by
  rw [isIdentifier, dropFinalBreak_of_not_mem h, Bool.and_eq_true, hasShape_iff, Bool.not_eq_true',
    ← Bool.not_eq_true, List.contains_iff_mem]
  exact ⟨fun h => ⟨h.1, h.2⟩, fun h => ⟨h.shaped, h.not_keyword⟩⟩

/-- With a line feed behind it every word is accepted. -/
theorem isIdentifier_append_lineFeed (u : String) : isIdentifier (u ++ "\n") = true ↔ IsShaped u.toList := by
  have htext : (u ++ "\n").toList = u.toList ++ ['\n'] := by
    rw [String.toList_append]
    rfl
  have hdrop : dropFinalBreak (u.toList ++ ['\n']) = u.toList := by simp [dropFinalBreak]
  -- keywords are looked up with the line feed, and none has one
  have hkeyword : u ++ "\n" ∉ keywords := by
    intro hmem
    refine lineFeed_not_mem_keywords _ hmem ?_
    rw [htext]
    exact List.mem_append_right _ List.mem_cons_self
  rw [isIdentifier, htext, hdrop, Bool.and_eq_true, hasShape_iff]
  exact and_iff_left (by simpa using hkeyword)

end Identifier

open Identifier Text

/-- Identifiers are accepted, and words that a line feed follows. -/
theorem isIdentifier_iff {s : String} :
    isIdentifier s = true ↔ IsName s ∨ ∃ u : String, IsShaped u.toList ∧ s = u ++ "\n" := by
  constructor
  · intro h
    by_cases hbreak : s.toList.getLast? = some '\n'
    · obtain ⟨cs, hcs⟩ := List.getLast?_eq_some_iff.1 hbreak
      have hs : s = String.ofList cs ++ "\n" := by
        rw [← String.toList_inj, hcs, String.toList_append, String.toList_ofList]
        rfl
      rw [hs, isIdentifier_append_lineFeed] at h
      exact Or.inr ⟨_, h, hs⟩
    · -- a line feed within a word is not accepted
      have hdrop : dropFinalBreak s.toList = s.toList := if_neg hbreak
      have hshaped : IsShaped s.toList := by
        rw [isIdentifier, hdrop, Bool.and_eq_true] at h
        exact hasShape_iff.1 h.1
      exact Or.inl ((isIdentifier_of_not_mem hshaped.lineFeed_not_mem).1 h)
  · rintro (h | ⟨u, hu, rfl⟩)
    · exact (isIdentifier_of_not_mem h.shaped.lineFeed_not_mem).2 h
    · exact (isIdentifier_append_lineFeed u).2 hu

theorem isName_iff_of_isIdentifier {s : String} (h : isIdentifier s = true) :
    IsName s ↔ s.toList.getLast? ≠ some '\n' := by
  constructor
  · intro hname hlast
    exact hname.shaped.lineFeed_not_mem (List.mem_of_getLast? hlast)
  · intro hlast
    rcases isIdentifier_iff.1 h with hname | ⟨u, -, rfl⟩
    · exact hname
    · exact absurd (by simp) hlast

theorem isBlankText_of_isIdentifier {s : String} (h : isIdentifier s = true) : Validation.isBlankText s = false := by
  rcases isIdentifier_iff.1 h with hname | ⟨u, hu, rfl⟩
  · exact hname.shaped.isBlankText
  · -- the line feed is behind a word
    have hword := hu.isBlankText
    rw [Validation.isBlankText, List.all_eq_false] at hword ⊢
    obtain ⟨c, hc, hblank⟩ := hword
    exact ⟨c, by simp [hc], hblank⟩

/-! ## Names in a topology -/

variable {r : Registry} {t : Topology} {o : RenderOptions} {a : Artifacts}

/-- What is accepted are the identifiers, and words that a line feed follows. Where nothing blocks the code, all names
of instances and databases are identifiers exactly if no name ends with a line feed. -/
theorem names_spelled_iff (hok : t.compile r o = .ok a) (hblocked : a.isBlocked = false) :
    (∀ s, isIdentifier s = true ↔ IsName s ∨ ∃ u : String, IsShaped u.toList ∧ s = u ++ "\n") ∧
    ((∀ i ∈ t.instances, IsName i.name ∧ ∀ database, r.databaseOf? i = some database → IsName database) ↔
      ∀ i ∈ t.instances, i.name.toList.getLast? ≠ some '\n' ∧
        ∀ database, r.databaseOf? i = some database → database.toList.getLast? ≠ some '\n') := by
  -- nothing is found about the names, so that all of them are accepted
  obtain ⟨hfaultless, -, -⟩ := compile_unblocked_iff.1 ⟨hok, hblocked⟩
  refine ⟨fun s => isIdentifier_iff, forall₂_congr fun i hi => ?_⟩
  refine and_congr (isName_iff_of_isIdentifier (hfaultless.isIdentifier_name hi)) ?_
  exact forall₂_congr fun database hdatabase =>
    isName_iff_of_isIdentifier (hfaultless.isIdentifier_database hi hdatabase)

/-- A server with a database, under a name. -/
def stored (name : String) : Topology where
  instances := [⟨"pg", "postgres", name, some "orders_2", .empty⟩]
  connections := []

theorem stored_compile : ∀ name ∈ ["_Store", "class\n"], (stored name).compile .standard .standard =
    .ok (.ofOrdered .standard .standard (stored name) (stored name).sequence.ordered) := by
  have hpasses : ∀ name ∈ ["_Store", "class\n"], PassesRules .standard (stored name) ∧
      Writable .standard .standard (stored name) (stored name).sequence.ordered := by decide
  intro name hname
  obtain ⟨hrules, hwritable⟩ := hpasses name hname
  exact compile_of_passesRules hrules acyclic_nil hwritable

theorem stored_spelled : ∃ a, (stored "_Store").compile .standard .standard = .ok a ∧ a.isBlocked = false ∧
    IsName "_Store" ∧ IsName "orders_2" := by
  have hok := stored_compile "_Store" (by decide)
  have hends : ∀ i ∈ (stored "_Store").instances, i.name.toList.getLast? ≠ some '\n' ∧
      ∀ database ∈ Registry.standard.databaseOf? i, database.toList.getLast? ≠ some '\n' := by decide
  have hnames := (names_spelled_iff hok isBlocked_ofOrdered).2.2 hends
  obtain ⟨hname, hdatabase⟩ := hnames _ List.mem_cons_self
  exact ⟨_, hok, isBlocked_ofOrdered, hname, hdatabase "orders_2" (by decide)⟩

/-- With a line feed behind it, a name passes, and so does a keyword. -/
theorem stored_not_spelled :
    (∃ a, (stored "class\n").compile .standard .standard = .ok a ∧ a.isBlocked = false ∧
      ∀ i ∈ (stored "class\n").instances, i.name = "class\n") ∧
    isIdentifier "class\n" = true ∧ isIdentifier "store\n" = true ∧ ¬ IsName "class\n" ∧ ¬ IsName "store\n" := by
  have hbroken {name : String} (hbreak : '\n' ∈ name.toList) : ¬ IsName name := fun h =>
    h.shaped.lineFeed_not_mem hbreak
  refine ⟨⟨_, stored_compile "class\n" (by decide), isBlocked_ofOrdered, fun i hi => ?_⟩, by decide, by decide,
    hbroken (by decide), hbroken (by decide)⟩
  rw [List.mem_singleton.1 hi]

end HostTopology
