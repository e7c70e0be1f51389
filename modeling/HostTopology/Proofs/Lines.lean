import HostTopology.Proofs.Scanning
import HostTopology.Proofs.Characters

/-!
# Lines — the ends of texts, and the lines of a text

Readers of files take a text line by line, and cut blanks or quotes off at both ends of what they find:

* `trimBy_eq_self_iff` — a text loses nothing if it begins and ends with characters that are kept;
* `trimRight_append_cons` — what stands before a visible character is kept;
* `lines_unlines` — lines that are ended by line feeds are read as these lines.
-/

namespace HostTopology
namespace Text

variable {cs xs ys : List Char} {c b : Char} {p : Char → Bool}

/-! ## Blanks and words -/

/-- The tables of blank characters and of characters of words have no range in common. -/
theorem spaceRanges_apart : ∀ s ∈ spaceRanges, ∀ w ∈ wordRanges, s.2 < w.1 ∨ w.2 < s.1 := by
  decide +kernel

theorem isBlank_of_isWord (h : isWord c = true) : isBlank c = false := by
  by_cases hascii : c.toNat < 0x80
  · exact of_ascii (P := fun c => isWord c = true → isBlank c = false) (by decide) hascii h
  · rw [isWord, if_neg hascii] at h
    rcases inRanges_iff.1 h with ⟨w, hw, hlow, hhigh⟩
    have hspace : isSpace c = false := by
      rw [← Bool.not_eq_true, isSpace, inRanges_iff]
      rintro ⟨s, hs, hlow', hhigh'⟩
      have hapart := spaceRanges_apart s hs w hw
      omega
    -- the four separators are ASCII characters
    simp only [isBlank, hspace, Bool.false_or, Bool.and_eq_false_iff, decide_eq_false_iff_not]
    omega

/-! ## Characters that are cut off at the ends -/

theorem dropWhile_eq_self (h : Stops p cs) : cs.dropWhile p = cs := by
  have hnone : ∀ c ∈ ([] : List Char), p c = true := by simp
  exact dropWhile_append_of_stops hnone h

/-- What stops a run still stops it if more follows. -/
theorem stops_append_right (hx : Stops p xs) (hy : Stops p ys) :
    Stops p (xs ++ ys) := by
  cases xs with
  | nil => exact hy
  | cons x xs => exact hx

theorem stops_dropWhile (p : Char → Bool) (cs : List Char) : Stops p (cs.dropWhile p) := by
  intro c hc
  simpa [Option.mem_def.1 hc] using List.head?_dropWhile_not p cs

/-- Trimmed text begins and ends with a character that is kept. -/
theorem ends_trimBy (hc : (trimBy p cs).head? = some c ∨ (trimBy p cs).getLast? = some c) : p c = false := by
  have hends : ∀ l : List Char, (l.dropWhile p).head? = some c → p c = false := by
    intro l hl
    simpa [hl] using List.head?_dropWhile_not p l
  rw [trimBy] at hc
  rcases hc with hhead | hlast
  · -- what is cut off at the end leaves the head where it is
    refine hends cs ?_
    have hpre : ((cs.dropWhile p).reverse.dropWhile p).reverse <+: cs.dropWhile p := by
      simpa using List.reverse_prefix.2 (List.dropWhile_suffix p (l := (cs.dropWhile p).reverse))
    rcases hpre with ⟨tail, htail⟩
    rw [← htail, List.head?_append, hhead, Option.some_or]
  · refine hends (cs.dropWhile p).reverse ?_
    rwa [List.getLast?_reverse] at hlast

/-- A text loses nothing exactly if both of its ends are kept. -/
theorem trimBy_eq_self_iff : trimBy p cs = cs ↔ Stops p cs ∧ Stops p cs.reverse := by
  constructor
  · intro h
    have hends : ∀ c, cs.head? = some c ∨ cs.getLast? = some c → p c = false := by
      intro c hc
      exact ends_trimBy (h.symm ▸ hc)
    exact ⟨fun c hc => hends c (.inl hc), fun c hc => hends c (.inr (by simpa using hc))⟩
  · rintro ⟨hfirst, hlast⟩
    rw [trimBy, dropWhile_eq_self hfirst, dropWhile_eq_self hlast, List.reverse_reverse]

/-- Characters around a text that are cut off do not matter. -/
theorem trimBy_wrapped (hb : p b = true) (hc : p c = true) (cs : List Char) :
    trimBy p (b :: (cs ++ [c])) = trimBy p cs := by
  have hleft : (b :: (cs ++ [c])).dropWhile p = if (cs.dropWhile p).isEmpty then [] else cs.dropWhile p ++ [c] := by
    rw [List.dropWhile_cons_of_pos hb, List.dropWhile_append]
    simp [hc]
  rw [trimBy, hleft]
  split
  · rename_i hempty
    simp [trimBy, List.isEmpty_iff.1 hempty]
  · simp [trimBy, hc]

/-! ## Blanks at the ends -/

theorem trimRight_cons (h : isBlank c = false) (cs : List Char) : trimRight (c :: cs) = c :: trimRight cs := by
  have hkept : (cs.reverse ++ [c]).dropWhile isBlank = cs.reverse.dropWhile isBlank ++ [c] := by
    rw [List.dropWhile_append]
    split
    · rename_i hempty
      rw [List.isEmpty_iff.1 hempty, List.dropWhile_cons_of_neg (by simp [h]), List.nil_append]
    · rfl
  rw [trimRight, List.reverse_cons, hkept, List.reverse_append]
  rfl

theorem trimRight_append (h : trimRight ys ≠ []) (xs : List Char) : trimRight (xs ++ ys) = xs ++ trimRight ys := by
  have hkept : ¬ (ys.reverse.dropWhile isBlank).isEmpty = true := by simpa [trimRight] using h
  rw [trimRight, List.reverse_append, List.dropWhile_append, if_neg hkept, List.reverse_append, List.reverse_reverse]
  rfl

/-- What stands before a visible character is kept. -/
theorem trimRight_append_cons (h : isBlank c = false) (xs ys : List Char) :
    trimRight (xs ++ c :: ys) = xs ++ c :: trimRight ys := by
  have hne : trimRight (c :: ys) ≠ [] := by simp [trimRight_cons h]
  rw [trimRight_append hne, trimRight_cons h]

theorem trimRight_concat (h : isBlank c = false) (xs : List Char) : trimRight (xs ++ [c]) = xs ++ [c] :=
  trimRight_append_cons h xs []

theorem trimLeft_append (h : ∀ c ∈ xs, isBlank c = true) (ys : List Char) : trimLeft (xs ++ ys) = trimLeft ys :=
  List.dropWhile_append_of_pos h

theorem trimLeft_cons (h : isBlank c = false) (cs : List Char) : trimLeft (c :: cs) = c :: cs :=
  List.dropWhile_cons_of_neg (by simp [h])

theorem trim_cons (h : isBlank c = false) (cs : List Char) : trim (c :: cs) = c :: trimRight cs := by
  rw [trim, trimLeft_cons h, trimRight_cons h]

theorem trim_cons_of_isBlank (h : isBlank b = true) (cs : List Char) : trim (b :: cs) = trim cs := by
  rw [trim, trim, trimLeft, List.dropWhile_cons_of_pos h, trimLeft]

theorem trim_eq_self_iff : trim cs = cs ↔ Stops isBlank cs ∧ Stops isBlank cs.reverse :=
  trimBy_eq_self_iff

/-- A text that is not blank has a first visible character. -/
theorem exists_visible (h : trim cs ≠ []) : ∃ blanks c rest, cs = blanks ++ c :: rest ∧
    (∀ b ∈ blanks, isBlank b = true) ∧ isBlank c = false := by
  have hvisible : cs.dropWhile isBlank ≠ [] := fun hempty => h (by rw [trim, trimLeft, hempty]; rfl)
  obtain ⟨c, rest, hcons⟩ := List.exists_cons_of_ne_nil hvisible
  refine ⟨cs.takeWhile isBlank, c, rest, ?_, fun b hb => List.mem_takeWhile_imp hb, ?_⟩
  · rw [← hcons, List.takeWhile_append_dropWhile]
  · exact stops_dropWhile isBlank cs c (by rw [hcons]; rfl)

theorem trim_of_visible (h : ∀ c ∈ cs, isBlank c = false) : trim cs = cs := by
  refine trim_eq_self_iff.2 ⟨?_, ?_⟩
  · exact fun c hc => h c (List.mem_of_mem_head? hc)
  · exact fun c hc => h c (by simpa using List.mem_of_mem_head? hc)

theorem mem_of_mem_trimRight (h : c ∈ trimRight cs) : c ∈ cs :=
  List.mem_reverse.1 ((List.dropWhile_sublist isBlank).subset (List.mem_reverse.1 h))

/-- A text between two visible characters has no blanks around it. -/
theorem trim_of_ends (hb : isBlank b = false) (hc : isBlank c = false) (cs : List Char) :
    trim (b :: (cs ++ [c])) = b :: (cs ++ [c]) := by
  rw [trim_cons hb, trimRight_concat hc]

/-- A blank in front of a text without blanks around it. -/
theorem trimLeft_trimRight_cons (hb : isBlank b = true) (h : trim cs = cs) : trimLeft (trimRight (b :: cs)) = cs := by
  obtain ⟨hfirst, hlast⟩ := trim_eq_self_iff.1 h
  have hright : trimRight cs = cs := by
    rw [trimRight, dropWhile_eq_self hlast, List.reverse_reverse]
  by_cases hnil : cs = []
  · subst hnil
    simp [trimRight, trimLeft, hb]
  · have hkept : trimRight ([b] ++ cs) = [b] ++ cs := by rw [trimRight_append (hright.symm ▸ hnil), hright]
    calc trimLeft (trimRight ([b] ++ cs)) = trimLeft ([b] ++ cs) := by rw [hkept]
      _ = trimLeft cs := trimLeft_append (by simpa using hb) cs
      _ = cs := dropWhile_eq_self hfirst

/-! ## Lines of a text -/

/-- Lines that are ended by line feeds. -/
def unlines (ls : List (List Char)) : List Char :=
  ls.flatMap (· ++ ['\n'])

theorem not_isLineEnd_of_mem_lines {l : List Char} (hl : l ∈ lines cs) (hc : c ∈ l) : isLineEnd c = false := by
  induction cs using lines.induct generalizing l with
  | case1 => cases hl
  | case2 cs ih =>
    rw [lines] at hl
    rcases List.mem_cons.1 hl with rfl | hl
    · cases hc
    · exact ih hl hc
  | case3 d cs hpair hd ih =>
    rw [lines.eq_3 _ _ hpair, if_pos hd] at hl
    rcases List.mem_cons.1 hl with rfl | hl
    · cases hc
    · exact ih hl hc
  | case4 d cs hpair hd ih =>
    rw [lines.eq_3 _ _ hpair, if_neg hd] at hl
    -- a character of the first line is the new one or was in that line before
    rcases mem_consFirst hl hc with rfl | ⟨other, hother, hc⟩
    · simpa using hd
    · exact ih hother hc

theorem lines_append_lineFeed {l : List Char} (h : ∀ c ∈ l, isLineEnd c = false) (cs : List Char) :
    lines (l ++ '\n' :: cs) = l :: lines cs := by
  induction l with
  | nil => exact (lines.eq_3 '\n' cs (by simp)).trans (if_pos (by decide))
  | cons d l ih =>
    have hd : isLineEnd d = false := h d List.mem_cons_self
    -- a carriage return would end the line, whatever follows it
    have hreturn : ∀ rest, d = '\r' → l ++ '\n' :: cs = '\n' :: rest → False := by
      rintro rest rfl
      exact absurd hd (by decide)
    rw [List.cons_append, lines.eq_3 _ _ hreturn, if_neg (by simp [hd]), ih fun c hc => h c (List.mem_cons_of_mem d hc)]
    rfl

theorem lines_unlines {ls : List (List Char)} (h : ∀ l ∈ ls, ∀ c ∈ l, isLineEnd c = false) :
    lines (unlines ls) = ls := by
  induction ls with
  | nil => rfl
  | cons l ls ih =>
    have htext : unlines (l :: ls) = l ++ '\n' :: unlines ls := by simp [unlines]
    rw [htext, lines_append_lineFeed (h l List.mem_cons_self), ih fun l' hl' => h l' (List.mem_cons_of_mem l hl')]

end Text
end HostTopology
