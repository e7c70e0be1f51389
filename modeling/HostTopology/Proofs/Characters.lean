import HostTopology.Identifier
import HostTopology.Naming
import HostTopology.Text.Digit
import HostTopology.Text.Word
import Mathlib.Tactic.SplitIfs

/-!
# Characters — which characters the parts of an AppHost are made of

Scanning depends on a few characters: delimiters, dots, equality signs, blanks and line ends. This
file tells which parts are free of them:

* `IsVariable` — ASCII letters and digits, at least one; variables and class names are like this;
* `isNameChar` — what the names of instances and databases are made of;
* `splitAll_intercalate`, `cutLast_cases` — texts with separators, taken apart;
* `exists_decimalNumeral?_iff`, `readNumeral_eq_ok_iff` — which texts stand for numbers;
* `readNumeral_toDigits` — the digits of a number stand for the number.
-/

namespace List

theorem mem_of_mem_intercalate {α : Type} {sep : List α} {parts : List (List α)} {x : α}
    (h : x ∈ sep.intercalate parts) : x ∈ sep ∨ ∃ part ∈ parts, x ∈ part := by
  induction parts with
  | nil => exact absurd h not_mem_nil
  | cons part parts ih =>
    by_cases hnil : parts = []
    · subst hnil
      rw [intercalate_singleton] at h
      exact Or.inr ⟨part, mem_cons_self, h⟩
    · rw [intercalate_cons_of_ne_nil hnil, mem_append, mem_append] at h
      rcases h with (h | h) | h
      · exact Or.inr ⟨part, mem_cons_self, h⟩
      · exact Or.inl h
      · rcases ih h with h | ⟨other, hother, h⟩
        · exact Or.inl h
        · exact Or.inr ⟨other, mem_cons_of_mem part hother, h⟩

end List

namespace HostTopology
namespace Text

/-- A property of the characters of a text is decided by trying these, not all characters there are. -/
instance (priority := high) decidableForallChar (p : Char → Prop) [DecidablePred p] (cs : List Char) :
    Decidable (∀ c ∈ cs, p c) :=
  List.decidableBAll p cs

/-! ## ASCII -/

/-- What holds of the first 128 code points holds of every ASCII character. -/
theorem of_ascii {P : Char → Prop} (h : ∀ n : Fin 128, P (Char.ofNat n)) {c : Char}
    (hc : c.toNat < 128) : P c := by
  have hn := h ⟨c.toNat, hc⟩
  simpa using hn

theorem lt_of_isAlphanum {c : Char} (h : c.isAlphanum = true) : c.toNat < 128 := by
  unfold Char.isAlphanum Char.isAlpha Char.isUpper Char.isLower Char.isDigit at h
  simp only [Bool.or_eq_true, Bool.and_eq_true, decide_eq_true_eq, UInt32.le_iff_toNat_le, ge_iff_le] at h
  have hc : c.toNat = c.val.toNat := rfl
  have hZ : 'Z'.val.toNat = 90 := rfl
  have hz : 'z'.val.toNat = 122 := rfl
  have h9 : '9'.val.toNat = 57 := rfl
  omega

/-- What holds of the ASCII letters and digits, by inspection. -/
theorem of_isAlphanum {P : Char → Prop} (h : ∀ n : Fin 128, (Char.ofNat n).isAlphanum = true → P (Char.ofNat n))
    {c : Char} (hc : c.isAlphanum = true) : P c :=
  of_ascii (P := fun c => c.isAlphanum = true → P c) h (lt_of_isAlphanum hc) hc

theorem isWord_of_isAlphanum {c : Char} (h : c.isAlphanum = true) : isWord c = true :=
  of_isAlphanum (P := fun c => isWord c = true) (by decide) h

theorem isBlank_of_isAlphanum {c : Char} (h : c.isAlphanum = true) : isBlank c = false :=
  of_isAlphanum (P := fun c => isBlank c = false) (by decide) h

theorem isAlphanum_toLower {c : Char} (h : c.isAlphanum = true) : c.toLower.isAlphanum = true :=
  of_isAlphanum (P := fun c => c.toLower.isAlphanum = true) (by decide) h

theorem isAlphanum_toUpper {c : Char} (h : c.isAlphanum = true) : c.toUpper.isAlphanum = true :=
  of_isAlphanum (P := fun c => c.toUpper.isAlphanum = true) (by decide) h

/-! ## Pieces -/

theorem mem_consFirst {c : Char} {pieces : List (List Char)} {piece : List Char} {x : Char}
    (h : piece ∈ consFirst c pieces) (hx : x ∈ piece) : x = c ∨ ∃ other ∈ pieces, x ∈ other := by
  cases pieces with
  | nil =>
    rw [List.mem_singleton.1 h, List.mem_singleton] at hx
    exact Or.inl hx
  | cons first pieces =>
    rcases List.mem_cons.1 h with rfl | h
    · rcases List.mem_cons.1 hx with rfl | hx
      · exact Or.inl rfl
      · exact Or.inr ⟨first, List.mem_cons_self, hx⟩
    · exact Or.inr ⟨piece, List.mem_cons_of_mem first h, hx⟩

/-- Pieces hold no separators. -/
theorem isSep_of_mem_splitAll {isSep : Char → Bool} {cs piece : List Char} {c : Char}
    (h : piece ∈ splitAll isSep cs) (hc : c ∈ piece) : isSep c = false := by
  induction cs generalizing piece with
  | nil =>
    rw [List.mem_singleton.1 h] at hc
    exact absurd hc List.not_mem_nil
  | cons x cs ih =>
    rw [splitAll] at h
    split at h
    · rcases List.mem_cons.1 h with rfl | h
      · exact absurd hc List.not_mem_nil
      · exact ih h hc
    · rename_i hx
      rcases mem_consFirst h hc with rfl | ⟨other, hother, hc⟩
      · simpa using hx
      · exact ih hother hc

/-- At a separator the pieces are those of what stands before it and those of what follows. -/
theorem splitAll_append_sep {isSep : Char → Bool} {d : Char} (hd : isSep d = true) (xs ys : List Char) :
    splitAll isSep (xs ++ d :: ys) = splitAll isSep xs ++ splitAll isSep ys := by
  induction xs with
  | nil =>
    have hcons : splitAll isSep (d :: ys) = [] :: splitAll isSep ys := by rw [splitAll, if_pos hd]
    exact hcons
  | cons x xs ih =>
    rw [List.cons_append, splitAll, splitAll, ih]
    split
    · rfl
    · rcases List.exists_cons_of_ne_nil (splitAll_ne_nil isSep xs) with ⟨first, rest, hfirst⟩
      rw [hfirst]
      rfl

/-- The first piece is the beginning of a text, and all pieces are parts of it. -/
theorem exists_splitAll (isSep : Char → Bool) (cs : List Char) : ∃ first rest, splitAll isSep cs = first :: rest ∧
    first <+: cs ∧ ∀ piece ∈ rest, piece <:+: cs := by
  induction cs with
  | nil => exact ⟨[], [], rfl, List.prefix_rfl, fun piece h => absurd h List.not_mem_nil⟩
  | cons c cs ih =>
    rcases ih with ⟨first, rest, heq, hfirst, hrest⟩
    have htail : ∀ piece ∈ rest, piece <:+: c :: cs := fun piece h => List.infix_cons (hrest piece h)
    rw [splitAll, heq]
    split
    · exact ⟨[], first :: rest, rfl, List.nil_prefix, List.forall_mem_cons.2 ⟨List.infix_cons hfirst.isInfix, htail⟩⟩
    · exact ⟨c :: first, rest, rfl, List.cons_prefix_cons.2 ⟨rfl, hfirst⟩, htail⟩

theorem infix_of_mem_splitAll {isSep : Char → Bool} {cs piece : List Char} (h : piece ∈ splitAll isSep cs) :
    piece <:+: cs := by
  rcases exists_splitAll isSep cs with ⟨first, rest, heq, hfirst, hrest⟩
  rw [heq] at h
  rcases List.mem_cons.1 h with rfl | h
  · exact hfirst.isInfix
  · exact hrest piece h

theorem splitAll_of_not_isSep {isSep : Char → Bool} {cs : List Char} (h : ∀ c ∈ cs, isSep c = false) :
    splitAll isSep cs = [cs] := by
  induction cs with
  | nil => rfl
  | cons c cs ih =>
    have hc := h c List.mem_cons_self
    have hcs := ih fun x hx => h x (List.mem_cons_of_mem c hx)
    simp [splitAll, hc, hcs, consFirst]

/-- Without separators, what is appended becomes part of the last piece. -/
theorem exists_splitAll_append {isSep : Char → Bool} {ys : List Char} (hys : ∀ c ∈ ys, isSep c = false)
    (xs : List Char) : ∃ init last, splitAll isSep xs = init ++ [last] ∧
      splitAll isSep (xs ++ ys) = init ++ [last ++ ys] := by
  induction xs with
  | nil => exact ⟨[], [], rfl, splitAll_of_not_isSep hys⟩
  | cons x xs ih =>
    rcases ih with ⟨init, last, hxs, happend⟩
    rw [List.cons_append, splitAll, splitAll, hxs, happend]
    split
    · exact ⟨[] :: init, last, rfl, rfl⟩
    · cases init with
      | nil => exact ⟨[], x :: last, rfl, rfl⟩
      | cons first init => exact ⟨(x :: first) :: init, last, rfl, rfl⟩

/-- Without separators, what is put in front becomes part of the first piece. -/
theorem splitAll_append_of_not_isSep {isSep : Char → Bool} {xs ys first : List Char} {rest : List (List Char)}
    (hxs : ∀ c ∈ xs, isSep c = false) (h : splitAll isSep ys = first :: rest) :
    splitAll isSep (xs ++ ys) = (xs ++ first) :: rest := by
  induction xs with
  | nil => exact h
  | cons x xs ih =>
    have hx : ¬ isSep x = true := by simp [hxs x List.mem_cons_self]
    rw [List.cons_append, splitAll, if_neg hx, ih fun c hc => hxs c (List.mem_cons_of_mem x hc)]
    rfl

theorem splitAll_append_cons {isSep : Char → Bool} {xs ys : List Char} {d : Char}
    (hxs : ∀ c ∈ xs, isSep c = false) (hd : isSep d = true) :
    splitAll isSep (xs ++ d :: ys) = xs :: splitAll isSep ys := by
  rw [splitAll_append_sep hd, splitAll_of_not_isSep hxs, List.singleton_append]

/-- Words that are joined by a separator are found again. -/
theorem splitAll_intercalate {isSep : Char → Bool} {d : Char} (hd : isSep d = true) {words : List (List Char)}
    (hne : words ≠ []) (h : ∀ w ∈ words, ∀ c ∈ w, isSep c = false) :
    splitAll isSep ([d].intercalate words) = words := by
  induction words with
  | nil => exact absurd rfl hne
  | cons w words ih =>
    have hw := h w List.mem_cons_self
    by_cases hnil : words = []
    · subst hnil
      simpa using splitAll_of_not_isSep hw
    · have htext : [d].intercalate (w :: words) = w ++ d :: [d].intercalate words := by
        simp [List.intercalate_cons_of_ne_nil hnil]
      have hrest := ih hnil fun w' hw' => h w' (List.mem_cons_of_mem w hw')
      rw [htext, splitAll_append_cons hw hd, hrest]

/-! ## Two sides -/

theorem cut_of_not_mem {sep : Char} {cs : List Char} (h : sep ∉ cs) : cut sep cs = (cs, none) := by
  have hall : ∀ c ∈ cs, decide (c ≠ sep) = true := by
    intro c hc
    simpa using fun heq : c = sep => h (heq ▸ hc)
  have hdrop : cs.dropWhile (· ≠ sep) = [] := by
    rw [← List.append_nil cs, List.dropWhile_append_of_pos hall, List.dropWhile_nil]
  simp only [cut, hdrop]

theorem cut_append_cons {sep : Char} {before : List Char} (h : sep ∉ before) (after : List Char) :
    cut sep (before ++ sep :: after) = (before, some after) := by
  have hall : ∀ c ∈ before, decide (c ≠ sep) = true := by
    intro c hc
    simpa using fun heq : c = sep => h (heq ▸ hc)
  have htake : (before ++ sep :: after).takeWhile (· ≠ sep) = before := by
    rw [List.takeWhile_append_of_pos hall]
    simp
  have hdrop : (before ++ sep :: after).dropWhile (· ≠ sep) = sep :: after := by
    rw [List.dropWhile_append_of_pos hall]
    simp
  simp only [cut, hdrop, htake]

theorem not_mem_fst_cut (sep : Char) (cs : List Char) : sep ∉ (cut sep cs).1 := by
  by_cases h : sep ∈ cs
  · rcases List.eq_append_cons_of_mem h with ⟨before, after, rfl, hnot⟩
    rwa [cut_append_cons hnot]
  · rwa [cut_of_not_mem h]

theorem cutLast_of_not_mem {sep : Char} {cs : List Char} (h : sep ∉ cs) : cutLast sep cs = (none, cs) := by
  rw [cutLast, cut_of_not_mem (by simpa using h)]

theorem cutLast_append_cons {sep : Char} {after : List Char} (before : List Char) (h : sep ∉ after) :
    cutLast sep (before ++ sep :: after) = (some before, after) := by
  have hreverse : (before ++ sep :: after).reverse = after.reverse ++ sep :: before.reverse := by simp
  rw [cutLast, hreverse, cut_append_cons (by simpa using h)]
  simp

/-- A text has no separator, or the last one parts it. -/
theorem cutLast_cases (sep : Char) (cs : List Char) : (sep ∉ cs ∧ cutLast sep cs = (none, cs)) ∨
    ∃ before after, cs = before ++ sep :: after ∧ sep ∉ after ∧ cutLast sep cs = (some before, after) := by
  by_cases h : sep ∈ cs
  · rcases List.eq_append_cons_of_mem (by simpa using h : sep ∈ cs.reverse) with ⟨after, before, heq, hnot⟩
    have hcs : cs = before.reverse ++ sep :: after.reverse := by
      simpa using congrArg List.reverse heq
    have hafter : sep ∉ after.reverse := by simpa using hnot
    exact Or.inr ⟨_, _, hcs, hafter, hcs ▸ cutLast_append_cons _ hafter⟩
  · exact Or.inl ⟨h, cutLast_of_not_mem h⟩

end Text

open Text

/-! ## Variables -/

structure IsVariable (s : String) : Prop where
  ne_empty : s ≠ ""
  isAlphanum : ∀ c ∈ s.toList, c.isAlphanum = true

theorem IsVariable.isWord {s : String} (h : IsVariable s) : ∀ c ∈ s.toList, isWord c = true := by
  intro c hc
  exact isWord_of_isAlphanum (h.isAlphanum c hc)

theorem IsVariable.toList_ne_nil {s : String} (h : IsVariable s) : s.toList ≠ [] := by
  simpa using h.ne_empty

theorem IsVariable.isBlank {s : String} (h : IsVariable s) : ∀ c ∈ s.toList, isBlank c = false := by
  intro c hc
  exact isBlank_of_isAlphanum (h.isAlphanum c hc)

namespace Naming

theorem orElse_ne_empty {default : String} (hdefault : default ≠ "") (cs : List Char) :
    orElse default cs ≠ "" := by
  rw [orElse]
  split_ifs with hcs
  · exact hdefault
  · intro h
    rw [← String.toList_inj, String.toList_ofList] at h
    exact hcs h

theorem mem_orElse {default : String} {cs : List Char} {c : Char} (h : c ∈ (orElse default cs).toList) :
    c ∈ default.toList ∨ c ∈ cs := by
  rw [orElse] at h
  split_ifs at h with hcs
  · exact Or.inl h
  · rw [String.toList_ofList] at h
    exact Or.inr h

theorem isAlphanum_asciiWords {cs w : List Char} (hw : w ∈ asciiWords cs) :
    ∀ c ∈ w, c.isAlphanum = true := by
  intro c hc
  have hsep := isSep_of_mem_splitAll (List.mem_filter.1 hw).1 hc
  simpa using hsep

theorem isAlphanum_capitalize {w : List Char} (h : ∀ c ∈ w, c.isAlphanum = true) :
    ∀ c ∈ capitalize w, c.isAlphanum = true := by
  intro c hc
  cases w with
  | nil => exact absurd hc List.not_mem_nil
  | cons x w =>
    rcases List.mem_cons.1 hc with rfl | hc
    · exact isAlphanum_toUpper (h x List.mem_cons_self)
    · rcases List.mem_map.1 hc with ⟨y, hy, rfl⟩
      exact isAlphanum_toLower (h y (List.mem_cons_of_mem x hy))

theorem isAlphanum_camelCase {ws : List (List Char)} (h : ∀ w ∈ ws, ∀ c ∈ w, c.isAlphanum = true) :
    ∀ c ∈ camelCase ws, c.isAlphanum = true := by
  intro c hc
  cases ws with
  | nil => exact absurd hc List.not_mem_nil
  | cons w ws =>
    rcases List.mem_append.1 hc with hc | hc
    · rcases List.mem_map.1 hc with ⟨y, hy, rfl⟩
      exact isAlphanum_toLower (h w List.mem_cons_self y hy)
    · rcases List.mem_flatten.1 hc with ⟨capital, hcapital, hc⟩
      rcases List.mem_map.1 hcapital with ⟨w', hw', rfl⟩
      exact isAlphanum_capitalize (h w' (List.mem_cons_of_mem w hw')) c hc

theorem isVariable_variableName (name : String) : IsVariable (variableName name) := by
  refine ⟨orElse_ne_empty (by decide) _, ?_⟩
  intro c hc
  rcases mem_orElse hc with hc | hc
  · have hdefault : ∀ c ∈ "resource".toList, c.isAlphanum = true := by decide
    exact hdefault c hc
  · have hparts : ∀ w ∈ asciiWords name.toList, ∀ c ∈ w, c.isAlphanum = true :=
      fun w hw => isAlphanum_asciiWords hw
    have hwords := isAlphanum_camelCase hparts
    rw [guardDigit] at hc
    split_ifs at hc
    · rcases List.mem_cons.1 hc with rfl | hc
      · rfl
      · exact hwords c hc
    · exact hwords c hc

theorem isVariable_capitalizeFirst {s : String} (h : IsVariable s) : IsVariable (capitalizeFirst s) := by
  have hne : s.toList ≠ [] := by simpa using h.ne_empty
  rw [capitalizeFirst]
  cases hs : s.toList with
  | nil => exact absurd hs hne
  | cons x cs =>
    have hx : x.isAlphanum = true := h.isAlphanum x (hs ▸ List.mem_cons_self)
    have hupper : upperChar x = [x.toUpper] := by
      rw [upperChar, if_pos (lt_of_isAlphanum hx)]
    change IsVariable (String.ofList (upperChar x ++ cs))
    rw [hupper]
    constructor
    · intro hempty
      rw [← String.toList_inj, String.toList_ofList] at hempty
      exact List.cons_ne_nil _ _ hempty
    · intro c hc
      rw [String.toList_ofList] at hc
      rcases List.mem_cons.1 hc with rfl | hc
      · exact isAlphanum_toUpper hx
      · exact h.isAlphanum c (hs ▸ List.mem_cons_of_mem x hc)

/-- The name of an image is made of letters, digits and underscores. -/
theorem mem_containerImageName {name : String} {c : Char} (h : c ∈ (containerImageName name).toList) :
    c.isAlphanum = true ∨ c = '_' := by
  rcases mem_orElse h with h | h
  · have hdefault : ∀ c ∈ "container".toList, c.isAlphanum = true := by decide
    exact Or.inl (hdefault c h)
  · have hwords : ∀ w ∈ imageWords name.toList, ∀ c ∈ w, c.isAlphanum = true := by
      intro w hw c hc
      have hsep := isSep_of_mem_splitAll (List.mem_filter.1 hw).1 hc
      simp only [isImageChar, Bool.not_eq_false', Bool.or_eq_true] at hsep
      unfold Char.isAlphanum Char.isAlpha
      simp only [Bool.or_eq_true]
      rcases hsep with hlower | hdigit
      · exact Or.inl (Or.inr hlower)
      · exact Or.inr hdigit
    rcases List.mem_of_mem_intercalate h with hc | ⟨w, hw, hc⟩
    · exact Or.inr (List.mem_singleton.1 hc)
    · exact Or.inl (hwords w hw c hc)

end Naming

/-! ## Names -/

/-- What an identifier is made of, with the line end that may follow it. -/
def isNameChar (c : Char) : Bool :=
  c.isAlphanum || c = '_' || c = '\n'

theorem of_isNameChar {P : Char → Prop} (h : ∀ n : Fin 128, isNameChar (Char.ofNat n) = true → P (Char.ofNat n))
    {c : Char} (hc : isNameChar c = true) : P c := by
  refine of_ascii (P := fun c => isNameChar c = true → P c) h ?_ hc
  simp only [isNameChar, Bool.or_eq_true, decide_eq_true_eq] at hc
  rcases hc with (hc | rfl) | rfl
  · exact lt_of_isAlphanum hc
  · decide
  · decide

theorem dropFinalBreak_of_not_mem {cs : List Char} (h : '\n' ∉ cs) : dropFinalBreak cs = cs := by
  have hlast : ¬ cs.getLast? = some '\n' := fun hlast => h (List.mem_of_getLast? hlast)
  rw [dropFinalBreak, if_neg hlast]

theorem mem_dropFinalBreak {cs : List Char} {c : Char} (h : c ∈ cs) :
    c ∈ dropFinalBreak cs ∨ c = '\n' := by
  rw [dropFinalBreak]
  split_ifs with hlast
  · rcases List.getLast?_eq_some_iff.1 hlast with ⟨init, rfl⟩
    rw [List.dropLast_concat]
    simpa using h
  · exact Or.inl h

theorem isNameChar_of_isIdentifier {s : String} (h : isIdentifier s = true) :
    ∀ c ∈ s.toList, isNameChar c = true := by
  intro c hc
  rw [isIdentifier, Bool.and_eq_true] at h
  rcases mem_dropFinalBreak hc with hc | rfl
  · cases hcs : dropFinalBreak s.toList with
    | nil => exact absurd (hcs ▸ hc) List.not_mem_nil
    | cons first rest =>
      rw [hcs, Identifier.hasShape, Bool.and_eq_true] at h
      rw [hcs] at hc
      simp only [Identifier.isFirst, Identifier.isNext, List.all_eq_true, Bool.or_eq_true,
        decide_eq_true_eq] at h
      simp only [isNameChar, Bool.or_eq_true, decide_eq_true_eq]
      rcases List.mem_cons.1 hc with rfl | hc
      · rcases h.1.1 with hfirst | hfirst
        · simp [Char.isAlphanum, hfirst]
        · exact Or.inl (Or.inr hfirst)
      · exact Or.inl (h.1.2 c hc)
  · rfl

theorem ne_empty_of_isIdentifier {s : String} (h : isIdentifier s = true) : s ≠ "" := by
  rintro rfl
  exact absurd h (by decide)

/-! ## Numerals -/

namespace Text

theorem exists_foldlM_iff {cs : List Char} (n : Nat) :
    (∃ m, cs.foldlM (fun n c => (decimalValue? c).map (n * 10 + ·)) n = some m) ↔
      ∀ c ∈ cs, isDecimal c = true := by
  induction cs generalizing n with
  | nil => simp [pure]
  | cons c cs ih =>
    cases hc : decimalValue? c with
    | none => simp [isDecimal, hc]
    | some d => simpa [isDecimal, hc] using ih (n * 10 + d)

/-- Decimal digits, and only they, stand for a number. -/
theorem exists_decimalNumeral?_iff {cs : List Char} :
    (∃ n, decimalNumeral? cs = some n) ↔ ∀ c ∈ cs, isDecimal c = true :=
  exists_foldlM_iff 0

theorem readNumeral_eq_ok_iff {cs : List Char} {n : Nat} :
    readNumeral cs = .ok n ↔ decimalNumeral? cs = some n ∧ cs.length ≤ numeralLimit := by
  rw [readNumeral]
  cases decimalNumeral? cs with
  | none => simp
  | some m => by_cases hlen : cs.length ≤ numeralLimit <;> simp [hlen]

/-- A numeral for a number other than zero has digits. -/
theorem allDigits_of_decimalNumeral? {cs : List Char} {n : Nat} (h : decimalNumeral? cs = some n)
    (hpos : 1 ≤ n) : allDigits cs = true := by
  have hne : cs ≠ [] := by
    rintro rfl
    have hzero : n = 0 := by simpa [decimalNumeral?, pure] using h.symm
    omega
  have hdigits : ∀ c ∈ cs, isDigit c = true := by
    intro c hc
    exact isDigit_of_isDecimal (exists_decimalNumeral?_iff.1 ⟨n, h⟩ c hc)
  simpa [allDigits, hne] using hdigits

theorem decimalValue?_of_isDigit {c : Char} (h : c.isDigit = true) :
    decimalValue? c = some (c.toNat - '0'.toNat) := by
  rw [decimalValue?, if_pos h]
  rfl

theorem foldlM_decimalValue? {cs : List Char} (h : ∀ c ∈ cs, c.isDigit = true) (n : Nat) :
    cs.foldlM (fun n c => (decimalValue? c).map (n * 10 + ·)) n = some (Nat.ofDigitChars 10 cs n) := by
  induction cs generalizing n with
  | nil => simp [pure]
  | cons c cs ih =>
    have hc := decimalValue?_of_isDigit (h c List.mem_cons_self)
    rw [List.foldlM_cons, hc, Nat.ofDigitChars_cons, Nat.mul_comm 10 n]
    exact ih (fun x hx => h x (List.mem_cons_of_mem c hx)) _

/-- A number that is written can be read. -/
theorem readNumeral_toDigits {n : Nat} (h : n < numeralBound) :
    readNumeral (Nat.toDigits 10 n) = .ok n := by
  have hdigits : ∀ c ∈ Nat.toDigits 10 n, c.isDigit = true := by
    intro c hc
    exact Nat.isDigit_of_mem_toDigits (by decide) (by decide) hc
  have hvalue : decimalNumeral? (Nat.toDigits 10 n) = some n := by
    rw [decimalNumeral?, foldlM_decimalValue? hdigits, Nat.ofDigitChars_ten_toDigits]
  have hpos : 0 < numeralLimit := by decide
  unfold numeralBound at h
  rw [readNumeral, hvalue]
  -- the bound is a power too large to be computed
  generalize numeralLimit = limit at h hpos ⊢
  have hlen : (Nat.toDigits 10 n).length ≤ limit := (Nat.length_toDigits_le_iff (by decide) hpos).2 h
  simp only [hlen, if_true]

end Text
end HostTopology
