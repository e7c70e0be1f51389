import HostTopology.AppHost.Reader
import HostTopology.Proofs.Scanning

/-!
# Comments — where the lines that are dropped begin

A comment is dropped with the blanks and blank lines before it, back to the end of the last line that
stays. This file tells when nothing is dropped and what is left of one comment:

* `Tidy xs ys` — no line that begins in `xs` is a comment, where `ys` follows;
* `Tidy.dropCommentsFrom` — such a stretch stays as it is;
* `dropCommentsFrom_comment` — a comment goes, and the line end after it stays.
-/

namespace HostTopology
namespace AppHost

open Text

variable {xs ys cs bl label after : List Char} {d : Char}

/-! ## Comments and skipping -/

/-- A comment begins here, perhaps after blanks. -/
def isComment (cs : List Char) : Bool :=
  ['/', '/'].isPrefixOf (cs.dropWhile isBlank)

theorem commentLength_eq_zero (h : isComment cs = false) : commentLength cs = 0 := by
  rw [isComment] at h
  rw [commentLength, h]
  rfl

theorem dropCommentsFrom_skip (xs ys : List Char) :
    dropCommentsFrom xs.length false (xs ++ ys) = dropCommentsFrom 0 false ys := by
  induction xs with
  | nil => rfl
  | cons x xs ih => rw [List.length_cons, List.cons_append, dropCommentsFrom, ih]

theorem dropCommentsFrom_cons (c : Char) (cs : List Char) :
    dropCommentsFrom 0 false (c :: cs) = c :: dropCommentsFrom 0 (c = '\n') cs := rfl

/-- At the start of a line a comment is left out. -/
theorem dropCommentsFrom_true (c : Char) (cs : List Char) : dropCommentsFrom 0 true (c :: cs) =
    match commentLength (c :: cs) with
    | 0 => c :: dropCommentsFrom 0 (c = '\n') cs
    | skip + 1 => dropCommentsFrom skip false cs := by
  cases h : commentLength (c :: cs) with
  | zero => simp [dropCommentsFrom, h]
  | succ skip => simp [dropCommentsFrom, h]

/-- Where no comment begins it does not matter whether a line begins. -/
theorem dropCommentsFrom_of_not_isComment (h : isComment cs = false) :
    dropCommentsFrom 0 true cs = dropCommentsFrom 0 false cs := by
  cases cs with
  | nil => rfl
  | cons c cs =>
    rw [dropCommentsFrom_true, commentLength_eq_zero h, dropCommentsFrom_cons]

theorem isComment_append_of_isBlank (hbl : ∀ c ∈ bl, isBlank c = true) (cs : List Char) :
    isComment (bl ++ cs) = isComment cs := by
  rw [isComment, isComment, List.dropWhile_append_of_pos hbl]

theorem exists_comment (h : isComment cs = true) :
    ∃ bl label, cs = bl ++ '/' :: '/' :: label ∧ ∀ c ∈ bl, isBlank c = true := by
  rw [isComment, List.isPrefixOf_iff_prefix] at h
  obtain ⟨label, hlabel⟩ := h
  refine ⟨cs.takeWhile isBlank, label, ?_, fun c hc => List.mem_takeWhile_imp hc⟩
  have heq := List.takeWhile_append_dropWhile (p := isBlank) (l := cs)
  rw [← hlabel] at heq
  exact heq.symm

/-- The end of a text, or of a line. -/
def IsLineRest (cs : List Char) : Prop :=
  cs = [] ∨ ∃ ys, cs = '\n' :: ys

theorem IsLineRest.exists_append (h : IsLineRest after) : ∃ stop rest, after = stop ++ rest ∧
    (∀ c ∈ stop, isBlank c = true) ∧ dropCommentsFrom 0 false after = stop ++ dropCommentsFrom 0 true rest := by
  rcases h with rfl | ⟨rest, rfl⟩
  · exact ⟨[], [], rfl, by decide, rfl⟩
  · exact ⟨['\n'], rest, rfl, by decide, rfl⟩

theorem dropCommentsFrom_remark (hbl : ∀ c ∈ bl, isBlank c = true) (hlabel : '\n' ∉ label) (hafter : IsLineRest after) :
    dropCommentsFrom 0 true (bl ++ ('/' :: '/' :: label ++ after)) = dropCommentsFrom 0 false after := by
  have hblank : Stops isBlank ('/' :: '/' :: label ++ after) := stops_cons.2 (by decide)
  have hrest : (bl ++ ('/' :: '/' :: label ++ after)).dropWhile isBlank = '/' :: '/' :: label ++ after :=
    dropWhile_append_of_stops hbl hblank
  -- the comment reaches to the end of its line, which is kept
  have hline : ∀ c ∈ '/' :: '/' :: label, decide (c ≠ '\n') = true := by
    intro c hc
    refine decide_eq_true ?_
    rintro rfl
    simp only [List.mem_cons, hlabel, or_false] at hc
    exact absurd hc (by decide)
  have hend : Stops (fun c => decide (c ≠ '\n')) after := by
    rcases hafter with rfl | ⟨ys, rfl⟩
    · exact fun c hc => nomatch hc
    · exact stops_cons.2 (by decide)
  have hlength : commentLength (bl ++ ('/' :: '/' :: label ++ after)) = (bl ++ '/' :: '/' :: label).length := by
    have hprefix : ['/', '/'].isPrefixOf ('/' :: '/' :: label ++ after) = true := rfl
    rw [commentLength, hrest, hprefix, if_pos rfl, dropWhile_append_of_stops hline hend]
    simp only [List.length_append]
    omega
  rw [← List.append_assoc] at hlength ⊢
  cases hdropped : bl ++ '/' :: '/' :: label with
  | nil => simp at hdropped
  | cons c dropped =>
    rw [hdropped] at hlength
    rw [List.cons_append] at hlength ⊢
    rw [dropCommentsFrom_true, hlength]
    exact dropCommentsFrom_skip dropped after

theorem dropCommentsFrom_comment (hlabel : '\n' ∉ label) (ys : List Char) :
    dropCommentsFrom 0 true ('\n' :: ('/' :: '/' :: label ++ '\n' :: ys)) =
      dropCommentsFrom 0 false ('\n' :: ys) := by
  have hbreak : ∀ c ∈ ['\n'], isBlank c = true := by decide
  exact dropCommentsFrom_remark hbreak hlabel (Or.inr ⟨ys, rfl⟩)

/-! ## Stretches without comments -/

def Tidy (xs ys : List Char) : Prop :=
  ∀ u v, xs = u ++ '\n' :: v → isComment (v ++ ys) = false

theorem Tidy.append {zs : List Char} (hx : Tidy xs (ys ++ zs)) (hy : Tidy ys zs) : Tidy (xs ++ ys) zs := by
  intro u v huv
  -- the line end is in one of the two stretches
  rcases List.append_eq_append_iff.1 huv with ⟨w, rfl, hw⟩ | ⟨w, hw, hv⟩
  · exact hy w v hw
  · cases w with
    | nil => exact hy [] v hv.symm
    | cons e w =>
      rcases List.cons.inj hv with ⟨rfl, htail⟩
      rw [htail]
      change isComment ((w ++ ys) ++ zs) = false
      rw [List.append_assoc]
      exact hx u w hw

theorem Tidy.tail {c : Char} (h : Tidy (c :: xs) ys) : Tidy xs ys := by
  intro u v huv
  exact h (c :: u) v (by rw [huv, List.cons_append])

theorem Tidy.dropCommentsFrom (h : Tidy xs ys) :
    dropCommentsFrom 0 false (xs ++ ys) = xs ++ dropCommentsFrom 0 false ys := by
  induction xs with
  | nil => rfl
  | cons c xs ih =>
    have htail := ih h.tail
    rw [List.cons_append, dropCommentsFrom_cons]
    by_cases hc : c = '\n'
    · have hline : isComment (xs ++ ys) = false := h [] xs (by rw [hc, List.nil_append])
      rw [decide_eq_true hc, dropCommentsFrom_of_not_isComment hline, htail, List.cons_append]
    · rw [decide_eq_false hc, htail, List.cons_append]

/-- A stretch on one line. -/
theorem tidy_of_not_mem_break (h : '\n' ∉ xs) (ys : List Char) : Tidy xs ys := by
  intro u v huv
  exact absurd (huv ▸ List.mem_append_right u List.mem_cons_self) h

theorem isComment_of_not_mem (h : '/' ∉ xs) (hd : isBlank d = false ∧ d ≠ '/') (ys : List Char) :
    isComment (xs ++ d :: ys) = false := by
  rw [isComment]
  induction xs with
  | nil =>
    rw [List.nil_append, List.dropWhile_cons_of_neg (by simp [hd.1]), List.isPrefixOf_cons_cons,
      beq_eq_false_iff_ne.2 hd.2.symm, Bool.false_and]
  | cons x xs ih =>
    have hx : '/' ≠ x := fun heq => h (heq ▸ List.mem_cons_self)
    -- before the end of the stretch a character other than a slash is met, or only blanks
    cases hblank : isBlank x with
    | true =>
      rw [List.cons_append, List.dropWhile_cons_of_pos hblank]
      exact ih fun hmem => h (List.mem_cons_of_mem x hmem)
    | false =>
      rw [List.cons_append, List.dropWhile_cons_of_neg (by simp [hblank]), List.isPrefixOf_cons_cons,
        beq_eq_false_iff_ne.2 hx, Bool.false_and]

/-- A stretch without slashes, before a character that begins no comment. -/
theorem tidy_of_not_mem (h : '/' ∉ xs) (hd : isBlank d = false ∧ d ≠ '/') (ys : List Char) :
    Tidy xs (d :: ys) := by
  intro u v huv
  have hv : '/' ∉ v := fun hmem => h (huv ▸ List.mem_append_right u (List.mem_cons_of_mem _ hmem))
  exact isComment_of_not_mem hv hd ys

end AppHost
end HostTopology
