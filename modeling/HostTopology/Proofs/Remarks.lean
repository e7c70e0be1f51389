import HostTopology.Proofs.Characters
import HostTopology.Proofs.Comments
import HostTopology.Proofs.Lines

/-!
# Remarks — the lines of a text that are code

A blank line says nothing, and neither does a comment. This file takes a text apart into lines, by
whatever ends a line, and keeps those that are neither:

* `isRemark`, `codeLines` — lines that say nothing, and all others;
* `codeLines_intercalate`, `codeLines_comment` — the lines of a text that is written line by line, where
  a comment goes on with a text of several lines;
* `IsCommentable` — texts that a comment can go on with, and `IsCommentable.of_imp` for other line ends;
* `exists_codeLine_of_infix` — what stands in a text without its comments stands in a line of code.
-/

namespace HostTopology
namespace AppHost

open Text

variable {isEnd : Char → Bool} {cs xs ys piece before line bl after : List Char} {d : Char}

/-! ## Lines of code -/

/-- A line that is blank or a comment. -/
def isRemark (line : List Char) : Bool :=
  line.all isBlank || isComment line

/-- The lines of a text that are neither blank nor comments. -/
def codeLines (isEnd : Char → Bool) (cs : List Char) : List (List Char) :=
  (splitAll isEnd cs).filter fun line => !isRemark line

theorem mem_codeLines {line : List Char} :
    line ∈ codeLines isEnd cs ↔ line ∈ splitAll isEnd cs ∧ isRemark line = false := by
  rw [codeLines, List.mem_filter, Bool.not_eq_true']

@[simp] theorem codeLines_nil (isEnd : Char → Bool) : codeLines isEnd [] = [] := rfl

theorem codeLines_append_sep (hd : isEnd d = true) (xs ys : List Char) :
    codeLines isEnd (xs ++ d :: ys) = codeLines isEnd xs ++ codeLines isEnd ys := by
  rw [codeLines, splitAll_append_sep hd, List.filter_append, codeLines, codeLines]

/-- Of a text that is joined from parts, every part is looked at alone. -/
theorem codeLines_intercalate (hd : isEnd '\n' = true) (parts : List String) :
    codeLines isEnd ("\n".intercalate parts).toList = parts.flatMap fun part => codeLines isEnd part.toList := by
  induction parts with
  | nil => rfl
  | cons part parts ih =>
    by_cases hnil : parts = []
    · subst hnil
      simp
    · have htext : ("\n".intercalate (part :: parts)).toList =
          part.toList ++ '\n' :: ("\n".intercalate parts).toList := by
        rw [String.intercalate_cons_of_ne_nil hnil, String.toList_append, String.toList_append, List.append_assoc]
        rfl
      rw [htext, codeLines_append_sep hd, ih, List.flatMap_cons]

theorem codeLines_of_isRemark (hline : ∀ c ∈ cs, isEnd c = false) (h : isRemark cs = true) :
    codeLines isEnd cs = [] := by
  rw [codeLines, splitAll_of_not_isSep hline, List.filter_cons_of_neg (by simp [h]), List.filter_nil]

theorem codeLines_of_not_isRemark (hline : ∀ c ∈ cs, isEnd c = false) (h : isRemark cs = false) :
    codeLines isEnd cs = [cs] := by
  rw [codeLines, splitAll_of_not_isSep hline, List.filter_cons_of_pos (by simp [h]), List.filter_nil]

/-! ## Comments -/

theorem isComment_append (h : isComment xs = true) (ys : List Char) : isComment (xs ++ ys) = true := by
  induction xs with
  | nil => cases h
  | cons x xs ih =>
    rw [isComment] at h ⊢
    cases hblank : isBlank x with
    | true =>
      rw [List.cons_append, List.dropWhile_cons_of_pos hblank]
      rw [List.dropWhile_cons_of_pos hblank] at h
      exact ih h
    | false =>
      rw [List.dropWhile_cons_of_neg (by simp [hblank]), List.isPrefixOf_iff_prefix] at h
      rw [List.cons_append, List.dropWhile_cons_of_neg (by simp [hblank]), List.isPrefixOf_iff_prefix]
      exact h.trans (List.prefix_append (x :: xs) ys)

theorem isRemark_comment (xs : List Char) : isRemark ('/' :: '/' :: xs) = true := by
  have hcomment : isComment ('/' :: '/' :: xs) = true := rfl
  rw [isRemark, hcomment, Bool.or_true]

/-- All lines after the first say nothing, so that the text can follow the beginning of a comment. -/
def IsCommentable (isEnd : Char → Bool) (cs : List Char) : Prop :=
  ∀ line ∈ (splitAll isEnd cs).tail, isRemark line = true

theorem isCommentable_of_not_isSep (h : ∀ c ∈ cs, isEnd c = false) : IsCommentable isEnd cs := by
  rw [IsCommentable, splitAll_of_not_isSep h]
  exact fun line hline => absurd hline List.not_mem_nil

/-- A comment lasts until the first line end of the text that it goes on with. -/
theorem codeLines_comment {label : List Char} (hlabel : ∀ c ∈ '/' :: '/' :: label, isEnd c = false)
    (cs : List Char) :
    codeLines isEnd ('/' :: '/' :: label ++ cs) = (splitAll isEnd cs).tail.filter fun line => !isRemark line := by
  rcases List.exists_cons_of_ne_nil (splitAll_ne_nil isEnd cs) with ⟨first, rest, hsplit⟩
  have hremark : isRemark ('/' :: '/' :: label ++ first) = true := isRemark_comment (label ++ first)
  rw [codeLines, splitAll_append_of_not_isSep hlabel hsplit, hsplit, List.filter_cons, hremark, List.tail_cons]
  rfl

theorem isCommentable_iff :
    IsCommentable isEnd cs ↔ ((splitAll isEnd cs).tail.filter fun line => !isRemark line) = [] := by
  simp [IsCommentable, List.filter_eq_nil_iff]

/-! ## Fewer line ends -/

theorem consFirst_append {c : Char} {pieces : List (List Char)} (hne : pieces ≠ []) (others : List (List Char)) :
    consFirst c (pieces ++ others) = consFirst c pieces ++ others := by
  cases pieces with
  | nil => exact absurd rfl hne
  | cons piece pieces => rfl

/-- A text can be split at some of the separators first. -/
theorem splitAll_eq_flatMap {p q : Char → Bool} (hpq : ∀ c, p c = true → q c = true) (cs : List Char) :
    splitAll q cs = (splitAll p cs).flatMap (splitAll q) := by
  induction cs with
  | nil => rfl
  | cons c cs ih =>
    rcases List.exists_cons_of_ne_nil (splitAll_ne_nil p cs) with ⟨first, rest, hfirst⟩
    rw [splitAll, splitAll, ih, hfirst]
    cases hp : p c with
    | true =>
      rw [if_pos (hpq c hp), if_pos rfl]
      rfl
    | false =>
      -- the character is put in front of the first piece, whichever way the text is split
      have hcons : (consFirst c (first :: rest)).flatMap (splitAll q) =
          splitAll q (c :: first) ++ rest.flatMap (splitAll q) := rfl
      rw [if_neg Bool.false_ne_true, hcons, List.flatMap_cons, splitAll]
      split
      · rfl
      · rw [consFirst_append (splitAll_ne_nil q first)]

theorem isRemark_cons {c : Char} (hc : isBlank c = true) (cs : List Char) : isRemark (c :: cs) = isRemark cs := by
  rw [isRemark, isRemark, isComment, isComment, List.all_cons, hc, Bool.true_and, List.dropWhile_cons_of_pos hc]

/-- Line ends are blank, so that lines which say nothing do so together. -/
theorem isRemark_of_splitAll (hblank : ∀ c, isEnd c = true → isBlank c = true)
    (h : ∀ line ∈ splitAll isEnd cs, isRemark line = true) : isRemark cs = true := by
  induction cs with
  | nil => rfl
  | cons c cs ih =>
    obtain ⟨first, rest, hsplit, hfirst, -⟩ := exists_splitAll isEnd cs
    rw [splitAll, hsplit] at h
    rw [hsplit] at ih
    split at h
    · rename_i hc
      rw [isRemark_cons (hblank c hc)]
      exact ih fun line hline => h line (List.mem_cons_of_mem _ hline)
    · obtain ⟨hstart, hrest⟩ := List.forall_mem_cons.1 h
      cases hc : isBlank c with
      | true =>
        rw [isRemark_cons hc] at hstart ⊢
        exact ih (List.forall_mem_cons.2 ⟨hstart, hrest⟩)
      | false =>
        -- the line begins with a slash, and so does the whole
        rw [isRemark, List.all_cons, hc, Bool.false_and, Bool.false_or] at hstart
        rcases hfirst with ⟨after, rfl⟩
        rw [isRemark, ← List.cons_append, isComment_append hstart after, Bool.or_true]

/-- A text that can follow a comment can do so where fewer characters end a line. -/
theorem IsCommentable.of_imp {isBreak : Char → Bool} (hbreak : ∀ c, isBreak c = true → isEnd c = true)
    (hblank : ∀ c, isEnd c = true → isBlank c = true) (h : IsCommentable isEnd cs) : IsCommentable isBreak cs := by
  intro line hline
  rcases List.exists_cons_of_ne_nil (splitAll_ne_nil isBreak cs) with ⟨first, rest, hsplit⟩
  rcases List.exists_cons_of_ne_nil (splitAll_ne_nil isEnd first) with ⟨start, others, hfirst⟩
  rw [hsplit, List.tail_cons] at hline
  refine isRemark_of_splitAll hblank fun part hpart => h part ?_
  rw [splitAll_eq_flatMap hbreak, hsplit, List.flatMap_cons, hfirst, List.cons_append, List.tail_cons]
  exact List.mem_append_right _ (List.mem_flatMap.2 ⟨line, hline, hpart⟩)

/-! ## Comments that are dropped -/

/-- The text up to its first line feed, and what follows. -/
theorem exists_line (cs : List Char) :
    ∃ line after, cs = line ++ after ∧ '\n' ∉ line ∧ IsLineRest after := by
  induction cs with
  | nil => exact ⟨[], [], rfl, List.not_mem_nil, Or.inl rfl⟩
  | cons c cs ih =>
    by_cases hc : c = '\n'
    · exact ⟨[], c :: cs, rfl, List.not_mem_nil, Or.inr ⟨cs, hc ▸ rfl⟩⟩
    · rcases ih with ⟨line, after, rfl, hline, hafter⟩
      refine ⟨c :: line, after, rfl, ?_, hafter⟩
      rw [List.mem_cons, not_or]
      exact ⟨Ne.symm hc, hline⟩

/-- A comment is dropped up to the end of its line. -/
theorem exists_dropCommentsFrom (h : isComment cs = true) :
    ∃ dropped after, cs = dropped ++ after ∧ IsLineRest after ∧
      dropCommentsFrom 0 true cs = dropCommentsFrom 0 false after := by
  obtain ⟨bl, rest, rfl, hbl⟩ := exists_comment h
  obtain ⟨label, after, rfl, hlabel, hafter⟩ := exists_line rest
  exact ⟨bl ++ '/' :: '/' :: label, after, by simp, hafter, dropCommentsFrom_remark hbl hlabel hafter⟩

/-- Only whole lines are left of a text without its comments. -/
theorem mem_splitAll_dropComments (h : piece ∈ splitAll (· = '\n') (dropComments cs)) :
    piece = [] ∨ piece ∈ splitAll (· = '\n') cs ∧ isComment piece = false := by
  rw [dropComments] at h
  induction hn : cs.length using Nat.strong_induction_on generalizing cs with
  | h n ih =>
  have hbreak : (fun c => decide (c = '\n')) '\n' = true := rfl
  -- after a line feed, comments are looked for again
  have hnext : ∀ dropped ys, cs = dropped ++ '\n' :: ys →
      piece ∈ splitAll (· = '\n') (dropCommentsFrom 0 true ys) →
        piece = [] ∨ piece ∈ splitAll (· = '\n') cs ∧ isComment piece = false := by
    intro dropped ys hcs hpiece
    have hshorter : ys.length < n := by
      rw [← hn, hcs, List.length_append, List.length_cons]
      omega
    rcases ih ys.length hshorter hpiece rfl with hnil | ⟨hmem, hcomment⟩
    · exact Or.inl hnil
    · rw [hcs, splitAll_append_sep hbreak]
      exact Or.inr ⟨List.mem_append_right _ hmem, hcomment⟩
  cases hcomment : isComment cs with
  | true =>
    obtain ⟨dropped, after, hcs, hafter, hdrop⟩ := exists_dropCommentsFrom hcomment
    rw [hdrop] at h
    rcases hafter with rfl | ⟨ys, rfl⟩
    · exact Or.inl (List.mem_singleton.1 h)
    · rcases List.mem_cons.1 h with hnil | htail
      · exact Or.inl hnil
      · exact hnext dropped ys hcs htail
  | false =>
    obtain ⟨line, after, hcs, hline, hafter⟩ := exists_line cs
    have hplain : ∀ c ∈ line, decide (c = '\n') = false := fun c hc => decide_eq_false fun heq => hline (heq ▸ hc)
    have hlinecode : isComment line = false := by
      rw [Bool.eq_false_iff]
      intro hstart
      rw [hcs, isComment_append hstart after] at hcomment
      cases hcomment
    rw [dropCommentsFrom_of_not_isComment hcomment, hcs, (tidy_of_not_mem_break hline after).dropCommentsFrom] at h
    rcases hafter with rfl | ⟨ys, rfl⟩
    · have hwhole : splitAll (· = '\n') (line ++ []) = [line] := by
        rw [List.append_nil, splitAll_of_not_isSep hplain]
      have hpiece : piece ∈ splitAll (· = '\n') (line ++ []) := h
      rw [hwhole, List.mem_singleton] at hpiece
      rw [hcs, hwhole, hpiece]
      exact Or.inr ⟨List.mem_singleton_self line, hlinecode⟩
    · have hpiece : piece ∈ splitAll (· = '\n') (line ++ '\n' :: dropCommentsFrom 0 true ys) := h
      rw [splitAll_append_cons hplain hbreak] at hpiece
      rcases List.mem_cons.1 hpiece with rfl | htail
      · refine Or.inr ⟨?_, hlinecode⟩
        rw [hcs, splitAll_append_cons hplain hbreak]
        exact List.mem_cons_self
      · exact hnext line ys hcs htail

/-- What has no separator stands in one piece. -/
theorem exists_mem_splitAll_of_infix {isSep : Char → Bool} (hxs : ∀ c ∈ xs, isSep c = false) (h : xs <:+: cs) :
    ∃ piece ∈ splitAll isSep cs, xs <:+: piece := by
  rcases h with ⟨before, after, rfl⟩
  rw [List.append_assoc]
  induction before with
  | nil =>
    rcases List.exists_cons_of_ne_nil (splitAll_ne_nil isSep after) with ⟨first, rest, hsplit⟩
    rw [List.nil_append, splitAll_append_of_not_isSep hxs hsplit]
    exact ⟨xs ++ first, List.mem_cons_self, (List.prefix_append xs first).isInfix⟩
  | cons c before ih =>
    rcases ih with ⟨piece, hpiece, hpart⟩
    rw [List.cons_append, splitAll]
    split
    · exact ⟨piece, List.mem_cons_of_mem _ hpiece, hpart⟩
    · cases hsplit : splitAll isSep (before ++ (xs ++ after)) with
      | nil => exact absurd hsplit (splitAll_ne_nil isSep _)
      | cons first rest =>
        rw [hsplit] at hpiece
        rcases List.mem_cons.1 hpiece with rfl | hrest
        · exact ⟨c :: piece, List.mem_cons_self, List.infix_cons hpart⟩
        · exact ⟨piece, List.mem_cons_of_mem _ hrest, hpart⟩

/-- What stands in a text without its comments stands in a line of code. -/
theorem exists_codeLine_of_infix (hline : '\n' ∉ xs) (hne : ∃ c ∈ xs, isBlank c = false)
    (h : xs <:+: dropComments cs) : ∃ line ∈ codeLines (· = '\n') cs, xs <:+: line := by
  have hsep : ∀ c ∈ xs, decide (c = '\n') = false := fun c hc => decide_eq_false fun heq => hline (heq ▸ hc)
  rcases exists_mem_splitAll_of_infix hsep h with ⟨line, hmem, hpart⟩
  rcases hne with ⟨c, hc, hblank⟩
  have hcline : c ∈ line := hpart.subset hc
  rcases mem_splitAll_dropComments hmem with rfl | ⟨hmem, hcomment⟩
  · exact absurd hcline List.not_mem_nil
  · have hall : line.all isBlank = false := List.all_eq_false.2 ⟨c, hcline, by simp [hblank]⟩
    have hcode : isRemark line = false := by rw [isRemark, hall, hcomment, Bool.or_false]
    exact ⟨line, mem_codeLines.2 ⟨hmem, hcode⟩, hpart⟩

/-! ## Lines in front of a text -/

/-- A comment is dropped with the blank lines before it. -/
theorem dropCommentsFrom_of_isComment (hbl : ∀ c ∈ bl, isBlank c = true) (hbreak : '\n' ∉ line)
    (hline : isComment line = true) (hafter : IsLineRest after) :
    dropCommentsFrom 0 true (bl ++ (line ++ after)) = dropCommentsFrom 0 false after := by
  obtain ⟨bl', label, rfl, hbl'⟩ := exists_comment hline
  have hlabel : '\n' ∉ label := fun h => hbreak (by simp [h])
  have hblank : ∀ c ∈ bl ++ bl', isBlank c = true := List.forall_mem_append.2 ⟨hbl, hbl'⟩
  have hdrop := dropCommentsFrom_remark hblank hlabel hafter
  simpa using hdrop

theorem tidy_of_isBlank (hbl : ∀ c ∈ bl, isBlank c = true) (h : isComment ys = false) : Tidy bl ys := by
  rintro u v rfl
  rw [isComment_append_of_isBlank fun c hc => hbl c (List.mem_append_right u (List.mem_cons_of_mem _ hc)), h]

/-- Blanks stay, unless a comment follows. -/
theorem exists_dropCommentsFrom_blank (hbl : ∀ c ∈ bl, isBlank c = true) (cs : List Char) :
    ∃ gap, (∀ c ∈ gap, isBlank c = true) ∧ dropCommentsFrom 0 true (bl ++ cs) = gap ++ dropCommentsFrom 0 true cs := by
  cases hcs : isComment cs with
  | true =>
    obtain ⟨bl', rest, rfl, hbl'⟩ := exists_comment hcs
    obtain ⟨label, after, rfl, hlabel, hafter⟩ := exists_line rest
    have hblank : ∀ c ∈ bl ++ bl', isBlank c = true := List.forall_mem_append.2 ⟨hbl, hbl'⟩
    refine ⟨[], by simp, ?_⟩
    rw [← List.append_assoc, List.nil_append]
    exact (dropCommentsFrom_remark hblank hlabel hafter).trans (dropCommentsFrom_remark hbl' hlabel hafter).symm
  | false =>
    refine ⟨bl, hbl, ?_⟩
    rw [dropCommentsFrom_of_not_isComment (by rw [isComment_append_of_isBlank hbl, hcs]),
      (tidy_of_isBlank hbl hcs).dropCommentsFrom, dropCommentsFrom_of_not_isComment hcs]

/-- What is added to a line of code does not make a comment of it. -/
theorem isRemark_append_of_not (hline : isRemark line = false) (hafter : ∀ c ∈ after.head?, c ≠ '/') :
    isRemark (line ++ after) = false := by
  rw [isRemark, Bool.or_eq_false_iff] at hline ⊢
  obtain ⟨hblank, hcomment⟩ := hline
  refine ⟨by rw [List.all_append, hblank, Bool.false_and], ?_⟩
  have hline := List.takeWhile_append_dropWhile (p := isBlank) (l := line)
  have hstart : ∀ c ∈ line.takeWhile isBlank, isBlank c = true := fun c hc => List.mem_takeWhile_imp hc
  rw [← hline, isComment_append_of_isBlank hstart] at hcomment
  rw [← hline, List.append_assoc, isComment_append_of_isBlank hstart]
  have hstop := stops_dropWhile isBlank line
  cases hrest : line.dropWhile isBlank with
  | nil =>
    rw [List.all_eq_false] at hblank
    obtain ⟨c, hc, hnot⟩ := hblank
    exact absurd (List.dropWhile_eq_nil_iff.1 hrest c hc) hnot
  | cons c rest =>
    rw [hrest] at hcomment hstop
    -- the two slashes would be the first characters of the line, or the second one would follow it
    rw [isComment, List.dropWhile_cons_of_neg (by simp [stops_cons.1 hstop])] at hcomment
    rw [isComment, List.cons_append, List.dropWhile_cons_of_neg (by simp [stops_cons.1 hstop])]
    cases rest with
    | nil =>
      cases after with
      | nil => exact hcomment
      | cons d after =>
        rw [List.nil_append, List.isPrefixOf_cons_cons, List.isPrefixOf_cons_cons,
          beq_eq_false_iff_ne.2 (hafter d rfl).symm, Bool.false_and, Bool.and_false]
    | cons d rest => exact hcomment

/-- A line of code stays, with the blank lines before it. -/
theorem dropCommentsFrom_of_not_isRemark (hbl : ∀ c ∈ bl, isBlank c = true) (hbreak : '\n' ∉ line)
    (hline : isRemark line = false) (hafter : IsLineRest after) :
    dropCommentsFrom 0 true (bl ++ (line ++ after)) = bl ++ (line ++ dropCommentsFrom 0 false after) := by
  have hhead : ∀ c ∈ after.head?, c ≠ '/' := by
    rcases hafter with rfl | ⟨ys, rfl⟩
    · simp
    · simp
  have hcode := isRemark_append_of_not hline hhead
  rw [isRemark, Bool.or_eq_false_iff] at hcode
  rw [dropCommentsFrom_of_not_isComment (by rw [isComment_append_of_isBlank hbl, hcode.2]),
    (tidy_of_isBlank hbl hcode.2).dropCommentsFrom, (tidy_of_not_mem_break hbreak after).dropCommentsFrom]

/-! ## Whole lines -/

/-- Lines with their ends. -/
def IsLines (cs : List Char) : Prop :=
  cs = [] ∨ ∃ xs, cs = xs ++ ['\n']

theorem exists_last_line (cs : List Char) : ∃ before line, cs = before ++ line ∧ '\n' ∉ line ∧ IsLines before := by
  obtain ⟨line, after, hcs, hline, hafter⟩ := exists_line cs.reverse
  refine ⟨after.reverse, line.reverse, ?_, by rwa [List.mem_reverse], ?_⟩
  · rw [← List.reverse_append, ← hcs, List.reverse_reverse]
  · rcases hafter with rfl | ⟨ys, rfl⟩
    · exact Or.inl rfl
    · exact Or.inr ⟨ys.reverse, List.reverse_cons⟩

/-- What is left of whole lines does not depend on what follows, apart from the blank lines at their end. -/
theorem exists_dropComments_lines (hbefore : IsLines before) : ∃ code bl, IsLines code ∧ (∀ c ∈ bl, isBlank c = true) ∧
    ∀ cs, dropComments (before ++ cs) = code ++ dropCommentsFrom 0 true (bl ++ cs) := by
  induction hn : before.length using Nat.strong_induction_on generalizing before with
  | h n ih =>
  rcases hbefore with rfl | ⟨xs, rfl⟩
  · exact ⟨[], [], Or.inl rfl, by simp, fun cs => rfl⟩
  · obtain ⟨before, line, rfl, hbreak, hbefore⟩ := exists_last_line xs
    have hshorter : before.length < n := by
      rw [← hn, List.length_append, List.length_append, List.length_singleton]
      omega
    obtain ⟨code, bl, hcode, hbl, hkept⟩ := ih before.length hshorter hbefore rfl
    have htext : ∀ cs, before ++ line ++ ['\n'] ++ cs = before ++ (line ++ '\n' :: cs) := by simp
    have hafter : ∀ cs, IsLineRest ('\n' :: cs) := fun cs => Or.inr ⟨cs, rfl⟩
    cases hremark : isRemark line with
    | false =>
      -- code keeps the blank lines before it
      refine ⟨code ++ (bl ++ (line ++ ['\n'])), [], Or.inr ⟨code ++ (bl ++ line), by simp⟩, by simp, fun cs => ?_⟩
      rw [htext, hkept, dropCommentsFrom_of_not_isRemark hbl hbreak hremark (hafter cs)]
      simp [dropCommentsFrom_cons]
    | true =>
      rw [isRemark, Bool.or_eq_true] at hremark
      rcases hremark with hblank | hcomment
      · -- a blank line is kept or left out with what follows it
        refine ⟨code, bl ++ (line ++ ['\n']), hcode, ?_, fun cs => ?_⟩
        · exact List.forall_mem_append.2 ⟨hbl, List.forall_mem_append.2 ⟨List.all_eq_true.1 hblank, by decide⟩⟩
        · rw [htext, hkept]
          simp
      · -- a comment is left out, with the blank lines before it, but for the end of its line
        refine ⟨code ++ ['\n'], [], Or.inr ⟨code, rfl⟩, by simp, fun cs => ?_⟩
        rw [htext, hkept, dropCommentsFrom_of_isComment hbl hbreak hcomment (hafter cs)]
        simp [dropCommentsFrom_cons]

end AppHost
end HostTopology
