import HostTopology.Proofs.Calls
import HostTopology.Proofs.Counts
import HostTopology.Proofs.Lines
import HostTopology.Proofs.Pieces

/-!
# Spacing — blanks that are put into an AppHost

Where one blank stands between two statements, or two parts of one, more blanks can stand. Only in a
literal they are read. This file puts blanks in behind a stretch of an AppHost that ends with one:

* `isOpen`, `IsClosed` — stretches that end within a literal, or not;
* `Carries` — scans for which it makes no difference that blanks are put in where they pass over them;
* `Reading.apply_gap`, `Sketch.ofAppHost_gap` — statements and files.
-/

namespace HostTopology
namespace AppHost

open Text Scan

variable {α β : Type} {p : Scan α} {f : α → Scan β} {next : Scan β} {cs u v gap after : List Char} {P Q S : List Char → Prop}
  {q : Char → Bool}

/-! ## Open literals -/

/-- A literal and the comma after it, read backwards. -/
def firstLiteral : Scan Unit := do
  Scan.literal ","
  Scan.blanks
  let _ ← Scan.quoted
  Scan.blanks

/-- A literal that has no end, read backwards: a quote after an opening bracket, or after a first literal. -/
def openLiteral : Scan Unit := do
  let _ ← Scan.run (· ≠ '"')
  Scan.literal "\""
  Scan.blanks
  Scan.perhaps firstLiteral
  Scan.literal "("

/-- A text ends within a literal. -/
def isOpen (cs : List Char) : Bool :=
  (openLiteral cs.reverse).isSome

/-- An opening bracket is the last thing that is no blank. -/
def IsOpening (cs : List Char) : Prop :=
  ∃ u bl, (∀ c ∈ bl, isBlank c = true) ∧ cs = u ++ '(' :: bl

/-- What stands before a literal: an opening bracket, perhaps with a first literal and a comma. -/
inductive IsLead : List Char → Prop where
  | first {u : List Char} (hu : IsOpening u) : IsLead u
  | second {u text bl₁ bl₂ : List Char} (hu : IsOpening u) (htext : '"' ∉ text) (hbl₁ : ∀ c ∈ bl₁, isBlank c = true)
      (hbl₂ : ∀ c ∈ bl₂, isBlank c = true) : IsLead (u ++ '"' :: (text ++ '"' :: (bl₁ ++ ',' :: bl₂)))

/-- Every literal that begins in a text ends there. -/
def IsClosed (cs : List Char) : Prop :=
  ∀ u v, cs = u ++ '"' :: v → IsLead u → '"' ∈ v

theorem IsOpening.append (h : IsOpening u) (xs : List Char) : IsOpening (xs ++ u) := by
  obtain ⟨u, bl, hbl, rfl⟩ := h
  exact ⟨xs ++ u, bl, hbl, (List.append_assoc ..).symm⟩

theorem IsLead.append (h : IsLead u) (xs : List Char) : IsLead (xs ++ u) := by
  cases h with
  | first hu => exact IsLead.first (hu.append xs)
  | second hu htext hbl₁ hbl₂ =>
    rw [← List.append_assoc]
    exact IsLead.second (hu.append xs) htext hbl₁ hbl₂

theorem IsClosed.of_suffix (h : IsClosed cs) (hv : v <:+ cs) : IsClosed v := by
  rintro u w rfl hlead
  obtain ⟨xs, rfl⟩ := hv
  exact h (xs ++ u) w (List.append_assoc ..).symm (hlead.append xs)

theorem IsClosed.of_append_blank {bl : List Char} (h : IsClosed (cs ++ bl)) (hbl : ∀ c ∈ bl, isBlank c = true) :
    IsClosed cs := by
  rintro u v rfl hlead
  rcases List.mem_append.1 (h u (v ++ bl) (by simp) hlead) with hv | hmem
  · exact hv
  · exact absurd (hbl _ hmem) (by decide)

theorem isClosed_of_isOpen (h : isOpen cs = false) : IsClosed cs := by
  rintro u v rfl hlead
  by_contra hv
  have hrun : ∀ c ∈ v.reverse, decide (c ≠ '"') = true :=
    fun c hc => decide_eq_true fun heq => hv (heq ▸ List.mem_reverse.1 hc)
  have hreverse : ∀ {bl : List Char}, (∀ c ∈ bl, isBlank c = true) → ∀ c ∈ bl.reverse, isBlank c = true :=
    fun hbl c hc => hbl c (List.mem_reverse.1 hc)
  have hbracket : ∀ ys, Stops isBlank ("(".toList ++ ys) := stops_append (by decide) (by decide)
  have hcs : (u ++ '"' :: v).reverse = v.reverse ++ ("\"".toList ++ u.reverse) := by simp
  -- from the end, the quote comes first, and then what stands before it
  rw [isOpen, hcs, openLiteral, bind_apply (run_append hrun (stops_quote _)), bind_apply (literal_append _ _)] at h
  cases hlead with
  | first hu =>
    obtain ⟨u, bl, hbl, rfl⟩ := hu
    have hu : (u ++ '(' :: bl).reverse = bl.reverse ++ ("(".toList ++ u.reverse) := by simp
    rw [hu, bind_apply (blanks_append (hreverse hbl) (hbracket _)), bind_apply (either_of_right rfl),
      literal_append] at h
    cases h
  | @second _ text bl₁ bl₂ hu htext hbl₁ hbl₂ =>
    obtain ⟨u, bl, hbl, rfl⟩ := hu
    have hquote : '"' ∉ (String.ofList text.reverse).toList := by
      rwa [String.toList_ofList, List.mem_reverse]
    have hu : (u ++ '(' :: bl ++ '"' :: (text ++ '"' :: (bl₁ ++ ',' :: bl₂))).reverse =
        bl₂.reverse ++ (",".toList ++ (bl₁.reverse ++ ("\"".toList ++ ((String.ofList text.reverse).toList ++
          ("\"".toList ++ (bl.reverse ++ ("(".toList ++ u.reverse))))))) := by simp
    have hcomma : ∀ ys, Stops isBlank (",".toList ++ ys) := stops_append (by decide) (by decide)
    have hmark : ∀ ys, Stops isBlank ("\"".toList ++ ys) := stops_append (by decide) (by decide)
    have hfirst : firstLiteral (",".toList ++ (bl₁.reverse ++ ("\"".toList ++ ((String.ofList text.reverse).toList ++
        ("\"".toList ++ (bl.reverse ++ ("(".toList ++ u.reverse))))))) = some ((), "(".toList ++ u.reverse) := by
      rw [firstLiteral, bind_apply (literal_append _ _), bind_apply (blanks_append (hreverse hbl₁) (hmark _)),
        bind_apply (quoted_append hquote _), blanks_append (hreverse hbl) (hbracket _)]
    rw [hu, bind_apply (blanks_append (hreverse hbl₂) (hcomma _)), perhaps,
      bind_apply (either_of_left hfirst), literal_append] at h
    cases h

/-! ## Blanks between the parts of a call -/

/-- A stretch whose last character is a blank. -/
def EndsBlank (v : List Char) : Prop :=
  ∃ w c, v = w ++ [c] ∧ isBlank c = true

theorem EndsBlank.ne_nil (h : EndsBlank v) : v ≠ [] := by
  rcases h with ⟨w, c, rfl, -⟩
  exact List.concat_ne_nil c w

theorem EndsBlank.of_append {x w : List Char} (h : EndsBlank (x ++ w)) (hne : w ≠ []) : EndsBlank w := by
  rcases h with ⟨w', c, heq, hc⟩
  have hlast : w.getLast? = some c := by
    rw [← List.getLast?_append_of_ne_nil x hne, heq, List.getLast?_concat]
  obtain ⟨w'', rfl⟩ := List.getLast?_eq_some_iff.1 hlast
  exact ⟨w'', c, rfl, hc⟩

theorem EndsBlank.exists_mem (h : EndsBlank v) : ∃ c ∈ v, isBlank c = true := by
  rcases h with ⟨w, c, rfl, hc⟩
  exact ⟨c, List.mem_append_right w List.mem_cons_self, hc⟩

/-- Texts in `P` with a text in `X` after them. -/
def After (P X : List Char → Prop) (cs : List Char) : Prop :=
  ∃ u x, P u ∧ X x ∧ cs = u ++ x

/-- A gap behind a stretch makes no difference to a scan that begins in the stretch, after a text in `P`. What
is left begins in the stretch as well, after a text in `Q`, or does not depend on the gap either. -/
def Carries (gap after : List Char) (P Q : List Char → Prop) (p : Scan α) : Prop :=
  ∀ u v, P u → EndsBlank v → IsClosed (u ++ v) → p (v ++ (gap ++ after)) = p (v ++ after) ∨
    ∃ a x w, v = x ++ w ∧ Q (u ++ x) ∧ EndsBlank w ∧ p (v ++ after) = some (a, w ++ after) ∧
      p (v ++ (gap ++ after)) = some (a, w ++ (gap ++ after))

namespace Carries

theorem bind (hp : Carries gap after P Q p) (hf : ∀ a, Carries gap after Q S (f a)) :
    Carries gap after P S (p >>= f) := by
  intro u v hu hv hclosed
  rcases hp u v hu hv hclosed with heq | ⟨a, x, w, rfl, hx, hw, hfound, hfound'⟩
  · exact Or.inl (bind_of_eq heq)
  · rw [bind_apply hfound, bind_apply hfound']
    rw [← List.append_assoc] at hclosed
    rcases hf a (u ++ x) w hx hw hclosed with heq | ⟨b, y, w', rfl, hy, hw', hfound, hfound'⟩
    · exact Or.inl heq
    · rw [List.append_assoc] at hy
      exact Or.inr ⟨b, x ++ y, w', (List.append_assoc ..).symm, hy, hw', hfound, hfound'⟩

theorem either {p' : Scan α} (hp : Carries gap after P Q p) (hp' : Carries gap after P Q p') :
    Carries gap after P Q (either p p') := by
  intro u v hu hv hclosed
  rcases hp u v hu hv hclosed with heq | ⟨a, x, w, rfl, hx, hw, hfound, hfound'⟩
  · cases hfound : p (v ++ after) with
    | none =>
      rw [either_of_right hfound, either_of_right (heq.trans hfound)]
      exact hp' u v hu hv hclosed
    | some found => exact Or.inl (by rw [either_of_left hfound, either_of_left (heq.trans hfound)])
  · exact Or.inr ⟨a, x, w, rfl, hx, hw, either_of_left hfound, either_of_left hfound'⟩

theorem imp {Q' : List Char → Prop} (h : Carries gap after P Q p) (hQ : ∀ u, Q u → Q' u) : Carries gap after P Q' p := by
  intro u v hu hv hclosed
  rcases h u v hu hv hclosed with heq | ⟨a, x, w, hvx, hx, hfound⟩
  · exact Or.inl heq
  · exact Or.inr ⟨a, x, w, hvx, hQ _ hx, hfound⟩

theorem weaken (h : Carries gap after P Q p) : Carries gap after P (fun _ => True) p :=
  h.imp fun _ _ => trivial

end Carries

theorem carries_pure (a : α) : Carries gap after P P (pure a) :=
  fun u v hu hv _ => Or.inr ⟨a, [], v, rfl, by rwa [List.append_nil], hv, rfl, rfl⟩

/-- A text without blanks is found in front of a blank, or it is not found. -/
theorem carries_literal {s : String} (hs : ∀ c ∈ s.toList, isBlank c = false) :
    Carries gap after P (After P (· = s.toList)) (Scan.literal s) := by
  intro u v hu hv _
  by_cases hprefix : s.toList <+: v
  · obtain ⟨w, rfl⟩ := hprefix
    have hw : w ≠ [] := by
      rintro rfl
      rw [List.append_nil] at hv
      obtain ⟨c, hc, hblank⟩ := hv.exists_mem
      rw [hs c hc] at hblank
      cases hblank
    refine Or.inr ⟨(), s.toList, w, rfl, ⟨u, _, hu, rfl, rfl⟩, hv.of_append hw, ?_, ?_⟩
    · rw [List.append_assoc, literal_append]
    · rw [List.append_assoc, literal_append]
  · -- a blank of the stretch would have to stand in the text
    have hnone : ∀ ys, Scan.literal s (v ++ ys) = none := by
      intro ys
      rw [Scan.literal, if_neg]
      rw [List.isPrefixOf_iff_prefix]
      intro h
      rcases List.prefix_or_prefix_of_prefix h (List.prefix_append v ys) with h | h
      · exact hprefix h
      · obtain ⟨c, hc, hblank⟩ := hv.exists_mem
        rw [hs c (h.subset hc)] at hblank
        cases hblank
    exact Or.inl (by rw [hnone, hnone])

/-- A run that goes over blanks can go over the gap. -/
theorem carries_run (hgap : ∀ c ∈ gap, q c = true)
    (hf : Carries gap after (After P fun x => ∀ c ∈ x, q c = true) Q next) :
    Carries gap after P Q (run q >>= fun _ => next) := by
  intro u v hu hv hclosed
  have hrun : ∀ cs, (run q >>= fun _ => next) cs = next (cs.dropWhile q) := fun cs => bind_apply rfl
  rw [hrun, hrun]
  cases hdrop : v.dropWhile q with
  | nil =>
    have hall : ∀ c ∈ v, q c = true := List.dropWhile_eq_nil_iff.1 hdrop
    -- the run goes over all that is left of the stretch, and on over the gap
    rw [List.dropWhile_append_of_pos hall, List.dropWhile_append_of_pos hall, List.dropWhile_append_of_pos hgap]
    exact Or.inl rfl
  | cons c w =>
    -- the run stops in the stretch, so that the gap is part of what comes next
    have hstop : ∀ ys, (v ++ ys).dropWhile q = (c :: w) ++ ys := by
      intro ys
      rw [List.dropWhile_append, hdrop]
      rfl
    have htake : v = v.takeWhile q ++ (c :: w) := by rw [← hdrop, List.takeWhile_append_dropWhile]
    have hw : EndsBlank (c :: w) := EndsBlank.of_append (htake ▸ hv) (List.cons_ne_nil c w)
    have hx : After P (fun x => ∀ c ∈ x, q c = true) (u ++ v.takeWhile q) :=
      ⟨u, _, hu, fun c hc => List.mem_takeWhile_imp hc, rfl⟩
    rw [hstop, hstop]
    rw [htake, ← List.append_assoc] at hclosed
    rcases hf _ _ hx hw hclosed with heq | ⟨b, y, w', hy, hQ, hw', hfound, hfound'⟩
    · exact Or.inl heq
    · refine Or.inr ⟨b, v.takeWhile q ++ y, w', ?_, ?_, hw', hfound, hfound'⟩
      · rw [List.append_assoc, ← hy, ← htake]
      · rwa [← List.append_assoc]

theorem someOf_bind_apply (q : Char → Bool) (next : Scan β) (cs : List Char) :
    (someOf q >>= fun _ => next) cs = if cs.takeWhile q = [] then none else (run q >>= fun _ => next) cs := by
  change andThen (someOf q) _ cs = _
  rw [andThen, someOf]
  cases cs.takeWhile q with
  | nil => rfl
  | cons c found => rw [if_neg (List.cons_ne_nil c found), bind_apply rfl]

theorem carries_someOf_bind (hgap : ∀ c ∈ gap, q c = true)
    (hf : Carries gap after (After P fun x => ∀ c ∈ x, q c = true) Q next) :
    Carries gap after P Q (someOf q >>= fun _ => next) := by
  intro u v hu hv hclosed
  obtain ⟨c, v', rfl⟩ := List.exists_cons_of_ne_nil hv.ne_nil
  rw [someOf_bind_apply, someOf_bind_apply, List.cons_append, List.cons_append, List.takeWhile_cons, List.takeWhile_cons]
  cases hc : q c with
  | false => exact Or.inl rfl
  | true => exact carries_run hgap hf u (c :: v') hu hv hclosed

/-- A run that stops at blanks ends in the stretch. -/
theorem carries_someOf (hq : ∀ c, isBlank c = true → q c = false) :
    Carries gap after P (After P fun x => ∀ c ∈ x, q c = true) (someOf q) := by
  intro u v hu hv _
  have htake : v = v.takeWhile q ++ v.dropWhile q := List.takeWhile_append_dropWhile.symm
  have hall : ∀ c ∈ v.takeWhile q, q c = true := fun c hc => List.mem_takeWhile_imp hc
  cases hdrop : v.dropWhile q with
  | nil =>
    obtain ⟨c, hc, hblank⟩ := hv.exists_mem
    -- a stretch ends with a blank, and the run does not go over it
    have hmem := List.dropWhile_eq_nil_iff.1 hdrop c hc
    rw [hq c hblank] at hmem
    cases hmem
  | cons c w =>
    rw [hdrop] at htake
    have hc : q c = false := by
      have hstop := stops_dropWhile q v
      rwa [hdrop, stops_cons] at hstop
    cases hempty : v.takeWhile q with
    | nil =>
      rw [hempty, List.nil_append] at htake
      have hnone : ∀ ys, someOf q (v ++ ys) = none := by
        intro ys
        rw [htake, List.cons_append, someOf, List.takeWhile_cons_of_neg (by simp [hc])]
      exact Or.inl (by rw [hnone, hnone])
    | cons d found =>
      have hfound : ∀ ys, someOf q (v ++ ys) = some (v.takeWhile q, (c :: w) ++ ys) := by
        intro ys
        have hne : v.takeWhile q ≠ [] := hempty ▸ List.cons_ne_nil d found
        have hstop : Stops q ((c :: w) ++ ys) := stops_cons.2 hc
        have happly := someOf_append hne hall hstop
        rwa [← List.append_assoc, ← htake] at happly
      exact Or.inr ⟨v.takeWhile q, v.takeWhile q, c :: w, htake, ⟨u, _, hu, hall, rfl⟩,
        EndsBlank.of_append (htake ▸ hv) (List.cons_ne_nil c w), hfound after, hfound (gap ++ after)⟩

theorem carries_word : Carries gap after P (After P fun x => ∀ c ∈ x, isWord c = true) word := by
  have hword : ∀ c, isBlank c = true → isWord c = false := by
    intro c hc
    by_contra h
    rw [isBlank_of_isWord (Bool.not_eq_false _ ▸ h)] at hc
    cases hc
  exact (carries_someOf hword).bind fun _ => carries_pure _

/-- The tables of blank characters and of digits have nothing in common. -/
theorem isDecimal_of_isBlank (c : Char) (hc : isBlank c = true) : isDecimal c = false := by
  by_cases hascii : c.toNat < 0x80
  · exact of_ascii (P := fun c => isBlank c = true → isDecimal c = false) (by decide) hascii hc
  · have hspace : isSpace c = true := by
      have hseparator : (decide (0x1C ≤ c.toNat) && decide (c.toNat ≤ 0x1F)) = false := by
        rw [Bool.and_eq_false_iff, decide_eq_false_iff_not, decide_eq_false_iff_not]
        omega
      rwa [isBlank, hseparator, Bool.or_false] at hc
    obtain ⟨s, hs, hlow, hhigh⟩ := inRanges_iff.1 hspace
    have hapart : ∀ s ∈ spaceRanges, ∀ z ∈ decimalZeros, s.2 < z ∨ z + 10 ≤ s.1 := by decide
    have hzero : decimalZeros.find? (fun z => decide (z ≤ c.toNat) && decide (c.toNat < z + 10)) = none := by
      rw [List.find?_eq_none]
      intro z hz hmem
      rw [Bool.and_eq_true, decide_eq_true_eq, decide_eq_true_eq] at hmem
      have hbeside := hapart s hs z hz
      omega
    have hdigit : ¬ c.isDigit = true := fun h => hascii (lt_of_isAlphanum (by simp [Char.isAlphanum, h]))
    rw [isDecimal, decimalValue?, if_neg hdigit, if_neg hascii, hzero]
    rfl

/-- A text between quotes. -/
def IsQuoted (cs : List Char) : Prop :=
  ∃ text, '"' ∉ text ∧ cs = '"' :: (text ++ ['"'])

/-- A literal that begins in the stretch ends there. -/
theorem exists_quoted (hu : IsLead u) (hv : EndsBlank v) (hclosed : IsClosed (u ++ v)) :
    (∀ ys, Scan.literal "\"" (v ++ ys) = none) ∨
      ∃ text w, v = '"' :: (text ++ ['"']) ++ w ∧ '"' ∉ text ∧ EndsBlank w := by
  obtain ⟨c, v, rfl⟩ := List.exists_cons_of_ne_nil hv.ne_nil
  by_cases hc : c = '"'
  · subst hc
    obtain ⟨text, w, rfl, htext⟩ := List.eq_append_cons_of_mem (hclosed u v rfl hu)
    have heq : '"' :: (text ++ '"' :: w) = '"' :: (text ++ ['"']) ++ w := by simp
    rw [heq] at hv
    refine Or.inr ⟨text, w, heq, htext, hv.of_append ?_⟩
    -- the quote at the end is no blank
    rintro rfl
    obtain ⟨w, c, hlast, hblank⟩ := hv
    rw [List.append_nil, ← List.cons_append] at hlast
    obtain ⟨-, hc⟩ := List.append_inj' hlast rfl
    rw [← List.head_eq_of_cons_eq hc] at hblank
    exact absurd hblank (by decide)
  · refine Or.inl fun ys => ?_
    have hprefix : ¬ "\"".toList.isPrefixOf (c :: v ++ ys) = true := by
      rw [List.isPrefixOf_iff_prefix]
      rintro ⟨rest, hrest⟩
      exact hc (List.head_eq_of_cons_eq hrest).symm
    rw [Scan.literal, if_neg hprefix]

theorem carries_quoted (hP : ∀ u, P u → IsLead u) : Carries gap after P (After P IsQuoted) Scan.quoted := by
  intro u v hu hv hclosed
  rcases exists_quoted (hP u hu) hv hclosed with hnone | ⟨text, w, rfl, htext, hw⟩
  · exact Or.inl (by rw [Scan.quoted, bind_of_none (hnone _), bind_of_none (hnone _)])
  · have hfound : ∀ ys, Scan.quoted ('"' :: (text ++ ['"']) ++ w ++ ys) = some (String.ofList text, w ++ ys) := by
      intro ys
      have happly := quoted_append (s := String.ofList text) (by rwa [String.toList_ofList]) (w ++ ys)
      simpa using happly
    exact Or.inr ⟨_, _, w, rfl, ⟨u, _, hu, ⟨text, htext, rfl⟩, rfl⟩, hw, hfound after, hfound _⟩

theorem carries_quotedSome (hP : ∀ u, P u → IsLead u) : Carries gap after P (After P IsQuoted) quotedSome := by
  intro u v hu hv hclosed
  rcases exists_quoted (hP u hu) hv hclosed with hnone | ⟨text, w, rfl, htext, hw⟩
  · exact Or.inl (by rw [quotedSome, bind_of_none (hnone _), bind_of_none (hnone _)])
  · cases text with
    | nil => exact Or.inl rfl
    | cons c text =>
      have hfound : ∀ ys, quotedSome ('"' :: (c :: text ++ ['"']) ++ w ++ ys) =
          some (String.ofList (c :: text), w ++ ys) := by
        intro ys
        have happly := quotedSome_append (s := String.ofList (c :: text)) (by simp)
          (by rwa [String.toList_ofList]) (w ++ ys)
        simpa using happly
      exact Or.inr ⟨_, _, w, rfl, ⟨u, _, hu, ⟨_, htext, rfl⟩, rfl⟩, hw, hfound after, hfound _⟩

/-! ## The calls of an AppHost -/

section Calls

variable (hgap : ∀ c ∈ gap, isBlank c = true)

include hgap

theorem carries_blanks : Carries gap after P (After P fun x => ∀ c ∈ x, isBlank c = true) blanks :=
  carries_run hgap (carries_pure ())

theorem carries_someBlanks : Carries gap after P (After P fun x => ∀ c ∈ x, isBlank c = true) someBlanks :=
  carries_someOf_bind hgap (carries_pure ())

theorem carries_openArguments : Carries gap after P IsOpening openArguments := by
  have hopen : Carries gap after P _ openArguments :=
    (carries_blanks hgap).bind fun _ => (carries_literal (by decide)).bind fun _ => carries_blanks hgap
  refine hopen.imp ?_
  rintro _ ⟨_, bl, ⟨u, _, -, rfl, rfl⟩, hbl, rfl⟩
  exact ⟨u, bl, hbl, List.append_assoc ..⟩

theorem carries_closeArguments : Carries gap after P (fun _ => True) closeArguments :=
  ((carries_blanks hgap).bind fun _ => carries_literal (by decide)).weaken

theorem carries_typeArgument : Carries gap after P (fun _ => True) typeArgument := by
  have hother : ∀ c ∈ gap, decide (c ≠ '>') = true := by
    intro c hc
    refine decide_eq_true fun heq => ?_
    rw [heq] at hc
    exact absurd (hgap '>' hc) (by decide)
  have htype : Carries gap after P _ typeArgument :=
    (carries_literal (by decide)).bind fun _ => carries_someOf_bind hother (carries_literal (by decide))
  exact htype.weaken

theorem carries_binding : Carries gap after P (fun _ => True) binding := by
  have hkey : Carries gap after P (fun _ => True)
      (Scan.either (Scan.literal "var") (Scan.either (Scan.literal "let") (Scan.literal "const"))) :=
    (carries_literal (by decide)).weaken.either
      ((carries_literal (by decide)).weaken.either (carries_literal (by decide)).weaken)
  exact hkey.bind fun _ => (carries_someBlanks hgap).bind fun _ => carries_word.bind fun _ =>
    (carries_blanks hgap).bind fun _ => (carries_literal (by decide)).bind fun _ => (carries_pure _).weaken

theorem carries_declaration : Carries gap after P (fun _ => True) declaration :=
  (carries_binding hgap).bind fun _ => (carries_blanks hgap).bind fun _ => (carries_literal (by decide)).bind fun _ =>
    carries_word.bind fun _ => ((carries_typeArgument hgap).either (carries_pure ()).weaken).bind fun _ =>
      (carries_openArguments hgap).bind fun _ => (carries_quotedSome fun _ => .first).bind fun _ => (carries_pure _).weaken

theorem carries_databaseDeclaration : Carries gap after P (fun _ => True) databaseDeclaration :=
  (carries_binding hgap).bind fun _ => (carries_blanks hgap).bind fun _ => carries_word.bind fun _ =>
    (carries_literal (by decide)).bind fun _ => (carries_openArguments hgap).bind fun _ =>
      (carries_quotedSome fun _ => .first).bind fun _ => (carries_pure _).weaken

theorem carries_owner : Carries gap after P (fun _ => True) owner := by
  have haccess : Carries gap after (After P fun x => ∀ c ∈ x, isBlank c = true) (fun _ => True) memberAccess :=
    carries_word.bind fun _ => (carries_blanks hgap).bind fun _ => (carries_literal (by decide)).bind fun _ =>
      (carries_pure _).weaken
  exact (carries_blanks hgap).bind fun _ => (carries_binding hgap).either haccess

theorem carries_referenceCall : Carries gap after P (fun _ => True) referenceCall :=
  (carries_literal (by decide)).bind fun _ => (carries_openArguments hgap).bind fun _ => carries_word.bind fun _ =>
    (carries_closeArguments hgap).bind fun _ => (carries_pure _).weaken

/-- The second text is read after the first one and a comma. -/
theorem carries_pairCall {method : String} (hmethod : ∀ c ∈ method.toList, isBlank c = false) :
    Carries gap after P (fun _ => True) (pairCall method) := by
  refine (carries_literal hmethod).bind fun _ => (carries_openArguments hgap).bind fun _ =>
    (carries_quoted fun _ => .first).bind fun _ => (carries_blanks hgap).bind fun _ =>
    (carries_literal (by decide)).bind fun _ => (carries_blanks hgap).bind fun _ => (carries_quoted ?_).bind fun _ =>
    (carries_closeArguments hgap).bind fun _ => (carries_pure _).weaken
  rintro _ ⟨_, bl₂, ⟨_, _, ⟨_, bl₁, ⟨u, _, hu, ⟨text, htext, rfl⟩, rfl⟩, hbl₁, rfl⟩, rfl, rfl⟩, hbl₂, rfl⟩
  simpa using IsLead.second hu htext hbl₁ hbl₂

theorem carries_replicasCall : Carries gap after P (fun _ => True) replicasCall :=
  (carries_literal (by decide)).bind fun _ => (carries_openArguments hgap).bind fun _ =>
    (carries_someOf isDecimal_of_isBlank).bind fun _ => (carries_closeArguments hgap).bind fun _ => (carries_pure _).weaken

end Calls

theorem takes_binding : Takes binding :=
  ((takes_literal (by decide)).either ((takes_literal (by decide)).either (takes_literal (by decide)))).bind fun _ =>
    takes_someBlanks.shrinks.bind fun _ => takes_word.shrinks.bind fun _ => shrinks_blanks.bind fun _ =>
      (shrinks_literal _).bind fun _ => shrinks_pure _

theorem shrinks_openArguments : Shrinks openArguments :=
  shrinks_blanks.bind fun _ => (shrinks_literal _).bind fun _ => shrinks_blanks

theorem shrinks_closeArguments : Shrinks closeArguments :=
  shrinks_blanks.bind fun _ => shrinks_literal _

theorem takes_typeArgument : Takes typeArgument :=
  (takes_literal (by decide)).bind fun _ => (takes_someOf _).shrinks.bind fun _ => shrinks_literal _

theorem takes_declaration : Takes declaration :=
  takes_binding.bind fun _ => shrinks_blanks.bind fun _ => (shrinks_literal _).bind fun _ =>
    takes_word.shrinks.bind fun _ => (shrinks_perhaps takes_typeArgument.shrinks).bind fun _ =>
      shrinks_openArguments.bind fun _ => takes_quotedSome.shrinks.bind fun _ => shrinks_pure _

theorem takes_databaseDeclaration : Takes databaseDeclaration :=
  takes_binding.bind fun _ => shrinks_blanks.bind fun _ => takes_word.shrinks.bind fun _ =>
    (shrinks_literal _).bind fun _ => shrinks_openArguments.bind fun _ => takes_quotedSome.shrinks.bind fun _ =>
      shrinks_pure _

theorem takes_referenceCall : Takes referenceCall :=
  (takes_literal (by decide)).bind fun _ => shrinks_openArguments.bind fun _ => takes_word.shrinks.bind fun _ =>
    shrinks_closeArguments.bind fun _ => shrinks_pure _

theorem takes_pairCall {method : String} (hmethod : method.toList ≠ []) : Takes (pairCall method) :=
  (takes_literal hmethod).bind fun _ => shrinks_openArguments.bind fun _ => takes_quoted.shrinks.bind fun _ =>
    shrinks_blanks.bind fun _ => (shrinks_literal _).bind fun _ => shrinks_blanks.bind fun _ =>
      takes_quoted.shrinks.bind fun _ => shrinks_closeArguments.bind fun _ => shrinks_pure _

/-! ## Searches -/

/-- A stretch in front of which no literal is open and whose last character, if it has one, is a blank. -/
structure IsStretch (v : List Char) : Prop where
  closed : IsClosed v
  ends : v = [] ∨ EndsBlank v

theorem IsStretch.of_suffix {w : List Char} (h : IsStretch v) (hw : w <:+ v) : IsStretch w := by
  refine ⟨h.closed.of_suffix hw, ?_⟩
  obtain ⟨x, rfl⟩ := hw
  rcases h.ends with hnil | hends
  · exact Or.inl (List.append_eq_nil_iff.1 hnil).2
  · by_cases hne : w = []
    · exact Or.inl hne
    · exact Or.inr (hends.of_append hne)

/-- What is found with the gap is what is found without it. -/
theorem all_gap (hp : Carries gap after (fun _ => True) Q p) (htakes : Takes p) (hskips : Skips p gap after)
    (hv : IsStretch v) : all p (v ++ (gap ++ after)) = all p (v ++ after) := by
  induction hn : v.length using Nat.strong_induction_on generalizing v with
  | h n ih =>
  rcases hv.ends with rfl | hends
  · exact all_of_skips hskips
  · rcases hp [] v trivial hends hv.closed with heq | ⟨a, x, w, rfl, -, -, hfound, hfound'⟩
    · cases hfound : p (v ++ after) with
      | some found => rw [htakes.all_eq hfound, htakes.all_eq (heq.trans hfound)]
      | none =>
        -- the search goes on with the next character
        obtain ⟨c, w, rfl⟩ := List.exists_cons_of_ne_nil hends.ne_nil
        have hrest := ih w.length (hn ▸ Nat.lt_succ_self _) (hv.of_suffix (List.suffix_cons c w)) rfl
        have hnone := heq.trans hfound
        rw [List.cons_append] at hnone hfound
        rwa [List.cons_append, List.cons_append, all_cons_of_none hnone, all_cons_of_none hfound]
    · obtain ⟨y, hne, hy⟩ := htakes _ _ _ hfound
      have hx : x ≠ [] := by
        rw [List.append_assoc, List.append_left_inj] at hy
        exact hy ▸ hne
      have hshorter : w.length < n := by
        have := List.length_pos_iff.2 hx
        rw [← hn, List.length_append]
        omega
      rw [htakes.all_eq hfound, htakes.all_eq hfound', ih w.length hshorter (hv.of_suffix (List.suffix_append x w)) rfl]

theorem first?_gap (hp : Carries gap after (fun _ => True) Q p) (hskips : Skips p gap after) (hv : IsStretch v) :
    first? p (v ++ (gap ++ after)) = first? p (v ++ after) := by
  induction v with
  | nil => exact first?_of_skips hskips
  | cons c v ih =>
    have hends : EndsBlank (c :: v) := hv.ends.resolve_left (List.cons_ne_nil c v)
    have hrest := ih (hv.of_suffix (List.suffix_cons c v))
    rcases hp [] (c :: v) trivial hends hv.closed with heq | ⟨a, x, w, -, -, -, hfound, hfound'⟩
    · rw [List.cons_append, List.cons_append] at heq ⊢
      rw [first?, first?, heq]
      cases p (c :: (v ++ after)) with
      | some found => rfl
      | none => exact hrest
    · have hne : ∀ ys, c :: v ++ ys ≠ [] := fun ys => List.cons_ne_nil c (v ++ ys)
      rw [first?_of_hit (hne _) hfound, first?_of_hit (hne _) hfound']

theorem contains_gap {piece : List Char} (hgap : ∀ c ∈ gap, isBlank c = true) (hpiece : ∀ c ∈ piece, isBlank c = false)
    (hne : piece ≠ []) (hv : IsStretch v) : contains piece (v ++ (gap ++ after)) = contains piece (v ++ after) := by
  have hmem : ∀ c, isBlank c = true → c ∉ piece := by
    intro c hc h
    rw [hpiece c h] at hc
    cases hc
  have hnil : contains piece [] = false := List.isEmpty_eq_false_iff.2 hne
  have hblanks : contains piece (gap ++ after) = contains piece after := by
    induction gap with
    | nil => rfl
    | cons c gap ih =>
      obtain ⟨hc, hgap⟩ := List.forall_mem_cons.1 hgap
      have hcons : contains piece ([] ++ c :: (gap ++ after)) = _ := contains_append_cons (hmem c hc)
      rw [hnil, Bool.false_or, ih hgap] at hcons
      exact hcons
  rcases hv.ends with rfl | ⟨w, c, rfl, hc⟩
  · exact hblanks
  · have hsplit : ∀ ys, contains piece (w ++ [c] ++ ys) = (contains piece w || contains piece ys) := by
      intro ys
      rw [List.append_assoc]
      exact contains_append_cons (hmem c hc)
    rw [hsplit, hsplit, hblanks]

/-! ## Statements -/

namespace Reading

variable {s : Reading}

theorem position?_gap (hgap : ∀ c ∈ gap, isBlank c = true) (hv : IsStretch v) :
    s.position? (v ++ (gap ++ after)) = s.position? (v ++ after) := by
  rw [position?, position?]
  rcases hv.ends with rfl | hends
  · -- a statement can begin with blanks
    have hblanks : blanks (gap ++ after) = blanks after := by
      change some ((), (gap ++ after).dropWhile isBlank) = some ((), after.dropWhile isBlank)
      rw [List.dropWhile_append_of_pos hgap]
    have howner : owner (gap ++ after) = owner after := bind_of_eq hblanks
    rw [List.nil_append, List.nil_append, howner]
  · have howner : Carries gap after (fun _ => True) _ owner := carries_owner hgap
    rcases howner [] v trivial hends hv.closed with heq | ⟨name, x, w, -, -, -, hfound, hfound'⟩
    · rw [heq]
    · rw [hfound, hfound']
      rfl

theorem configure_gap (hgap : ∀ c ∈ gap, isBlank c = true) (hv : IsStretch v) (c : ResourceConfig) :
    configure (v ++ (gap ++ after)) c = configure (v ++ after) c := by
  have hdot : '.' ∉ gap := fun h => absurd (hgap '.' h) (by decide)
  have henvironment := all_gap (carries_pairCall hgap (by decide)) (takes_pairCall (by decide))
    ((calls_pairCall ".WithEnvironment").skips_of_not_mem hdot after) hv
  have hmounts := all_gap (carries_pairCall hgap (by decide)) (takes_pairCall (by decide))
    ((calls_pairCall ".WithBindMount").skips_of_not_mem hdot after) hv
  have hreplicas := first?_gap (carries_replicasCall hgap) (calls_replicasCall.skips_of_not_mem hdot after) hv
  have hlifetime : contains persistentMark.toList (v ++ (gap ++ after)) = contains persistentMark.toList (v ++ after) :=
    contains_gap hgap (by decide) (by decide) hv
  rw [configure, configure, henvironment, hmounts, hreplicas, hlifetime]

theorem addReferences_gap (hgap : ∀ c ∈ gap, isBlank c = true) (hv : IsStretch v) (position : Nat) :
    s.addReferences position (v ++ (gap ++ after)) = s.addReferences position (v ++ after) := by
  have hdot : '.' ∉ gap := fun h => absurd (hgap '.' h) (by decide)
  rw [addReferences, addReferences, all_gap (carries_referenceCall hgap) takes_referenceCall
    (calls_referenceCall.skips_of_not_mem hdot _) hv]

/-- Blanks behind the beginning of a statement make no difference. -/
theorem apply_gap (hgap : ∀ c ∈ gap, isBlank c = true) (hv : IsStretch v) :
    s.apply (v ++ (gap ++ after)) = s.apply (v ++ after) := by
  have hposition : s.position? (v ++ (gap ++ after)) = s.position? (v ++ after) := position?_gap hgap hv
  rw [position?, position?] at hposition
  rw [apply, apply, hposition]
  simp only [configure_gap hgap hv, addReferences_gap hgap hv]

end Reading

/-! ## Files -/

/-- Blanks behind a stretch stand in one statement. -/
theorem foldlM_apply_gap (hgap : ∀ c ∈ gap, isBlank c = true) (hv : IsStretch v) (s : Reading) :
    (splitAll (· = ';') (v ++ (gap ++ after))).foldlM Reading.apply s =
      (splitAll (· = ';') (v ++ after)).foldlM Reading.apply s := by
  have hsep : (fun c => decide (c = ';')) ';' = true := rfl
  induction hn : v.length using Nat.strong_induction_on generalizing v s with
  | h n ih =>
  by_cases hmem : ';' ∈ v
  · obtain ⟨first, w, rfl⟩ := List.append_of_mem hmem
    have hshorter : w.length < n := by
      rw [← hn, List.length_append, List.length_cons]
      omega
    have hw : IsStretch w := hv.of_suffix ⟨first ++ [';'], by simp⟩
    rw [List.append_assoc, List.append_assoc, List.cons_append, List.cons_append, splitAll_append_sep hsep,
      splitAll_append_sep hsep, List.foldlM_append, List.foldlM_append]
    exact bind_congr fun s => ih w.length hshorter hw s rfl
  · have hwhole : ∀ c ∈ v, decide (c = ';') = false := fun c hc => decide_eq_false fun heq => hmem (heq ▸ hc)
    have hgap' : ∀ c ∈ gap, decide (c = ';') = false := by
      intro c hc
      refine decide_eq_false fun heq => ?_
      rw [heq] at hc
      exact absurd (hgap ';' hc) (by decide)
    obtain ⟨first, rest, hsplit⟩ := List.exists_cons_of_ne_nil (splitAll_ne_nil (fun c => decide (c = ';')) after)
    rw [splitAll_append_of_not_isSep hwhole hsplit,
      splitAll_append_of_not_isSep hwhole (splitAll_append_of_not_isSep hgap' hsplit), List.foldlM_cons,
      List.foldlM_cons, Reading.apply_gap hgap hv]

theorem declaredIn_gap (hgap : ∀ c ∈ gap, isBlank c = true) (hv : IsStretch v) (r : Registry) :
    declaredIn r (v ++ (gap ++ after)) = declaredIn r (v ++ after) := by
  rw [declaredIn, declaredIn,
    all_gap (carries_declaration hgap) takes_declaration (assigns_declaration.skips_of_isBlank hgap after) hv,
    all_gap (carries_databaseDeclaration hgap) takes_databaseDeclaration
      (assigns_databaseDeclaration.skips_of_isBlank hgap after) hv]

end AppHost

open AppHost

/-- Two files whose code differs by blanks behind a blank, and not within a literal, say the same. -/
theorem Sketch.ofAppHost_gap {v gap gap' after : List Char} {text text' : String}
    (hgap : ∀ c ∈ gap, Text.isBlank c = true) (hgap' : ∀ c ∈ gap', Text.isBlank c = true) (hv : IsStretch v)
    (htext : dropComments text.toList = v ++ (gap ++ after)) (htext' : dropComments text'.toList = v ++ (gap' ++ after))
    (r : Registry) : Sketch.ofAppHost r text' = Sketch.ofAppHost r text := by
  have hreading : ∀ {gap : List Char} {text : String}, (∀ c ∈ gap, Text.isBlank c = true) →
      dropComments text.toList = v ++ (gap ++ after) → Sketch.ofAppHost r text = (do
        let reading ← (Text.splitAll (· = ';') (v ++ after)).foldlM Reading.apply (declaredIn r (v ++ after))
        return if reading.sketch.drafts.isEmpty then reading.sketch.warn nothingFound else reading.sketch) := by
    intro gap text hgap htext
    rw [← declaredIn_gap hgap hv r, ← foldlM_apply_gap hgap hv, ← htext]
    rfl
  rw [hreading hgap htext, hreading hgap' htext']

end HostTopology
