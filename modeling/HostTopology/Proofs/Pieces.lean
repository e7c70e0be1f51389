import HostTopology.Proofs.Statements

/-!
# Pieces — an AppHost without comments, cut at its semicolons

The reader drops comment lines, cuts what is left at every semicolon, and looks in each piece for the
mark of a persistent lifetime. Plain parts have no semicolon of their own, no line that begins as a
comment, and no mark apart from the one that is asked for:

* `contains_stem` — where the mark is found;
* `splitAll_flatMap` — the pieces are the statements;
* `Tidy`, `dropCommentsFrom_append` — stretches in which no comment begins.
-/

namespace HostTopology
namespace Text

variable {piece xs ys : List Char} {d : Char}

/-! ## Occurrences -/

theorem contains_iff : contains piece xs = true ↔ piece <:+: xs := by
  induction xs with
  | nil => rw [contains, List.isEmpty_iff, List.infix_nil]
  | cons c cs ih =>
    rw [contains, Bool.or_eq_true, ih, List.isPrefixOf_iff_prefix, List.infix_cons_iff]

theorem contains_eq_false_iff : contains piece xs = false ↔ ¬ piece <:+: xs := by
  rw [← contains_iff, Bool.not_eq_true]

theorem not_contains_of_not_mem (hd : d ∈ piece) (h : d ∉ xs) : contains piece xs = false :=
  contains_eq_false_iff.2 fun hoccurs => h (hoccurs.subset hd)

/-- A piece does not go over a character that it lacks. -/
theorem contains_append_cons (hd : d ∉ piece) :
    contains piece (xs ++ d :: ys) = (contains piece xs || contains piece ys) := by
  rw [Bool.eq_iff_iff, Bool.or_eq_true, contains_iff, contains_iff, contains_iff]
  constructor
  · rintro ⟨before, after, htext⟩
    rcases List.append_eq_append_iff.1 htext with ⟨w, hxs, -⟩ | ⟨w, hpiece, hys⟩
    · exact Or.inl ⟨before, w, hxs.symm⟩
    · cases w with
      | nil =>
        rw [List.append_nil] at hpiece
        exact Or.inl ⟨before, [], by rw [List.append_nil, hpiece]⟩
      | cons e w =>
        rcases List.cons.inj hys with ⟨rfl, rfl⟩
        -- the character stands before the piece, since it cannot stand in it
        rcases List.append_eq_append_iff.1 hpiece with ⟨u, -, hu⟩ | ⟨u, -, hu⟩
        · exact absurd (hu ▸ List.mem_append_right u List.mem_cons_self) hd
        · cases u with
          | nil =>
            rw [List.nil_append] at hu
            exact absurd (hu ▸ List.mem_cons_self) hd
          | cons e' u =>
            rcases List.cons.inj hu with ⟨-, rfl⟩
            exact Or.inr ⟨u, after, rfl⟩
  · rintro (hoccurs | hoccurs)
    · exact hoccurs.trans List.infix_append_left
    · exact hoccurs.trans ((List.suffix_cons d ys).isInfix.trans List.infix_append_right)

end Text

namespace AppHost

open Text Scan

variable {xs ys gap indent : List Char} {s : Statement} {c : ChainCall} {call : OpeningCall}

/-! ## The mark of a persistent lifetime -/

theorem not_contains_mark_of_not_mem (h : '.' ∉ xs) : contains persistentMark.toList xs = false :=
  not_contains_of_not_mem (by decide : '.' ∈ persistentMark.toList) h

/-- The mark has one dot; what stands around the only dot of a text shows whether it is there. -/
theorem not_contains_mark {left right : List Char} (hleft : '.' ∉ left) (hright : '.' ∉ right)
    (h : right.head? ≠ some 'P' ∨ ¬ "ContainerLifetime".toList <:+ left) :
    contains persistentMark.toList (left ++ '.' :: right) = false := by
  rw [contains_eq_false_iff]
  rintro ⟨before, after, htext⟩
  have hmark : before ++ persistentMark.toList ++ after = (before ++ "ContainerLifetime".toList) ++
      '.' :: ("Persistent".toList ++ after) := by
    have hparts : persistentMark.toList = "ContainerLifetime".toList ++ '.' :: "Persistent".toList := rfl
    simp only [hparts, List.append_assoc, List.cons_append]
  rw [hmark] at htext
  rcases (List.append_cons_inj_of_notMem hleft hright).1 htext.symm with ⟨hbefore, -, hafter⟩
  rcases h with hhead | hsuffix
  · apply hhead
    rw [hafter]
    rfl
  · exact hsuffix ⟨before, hbefore.symm⟩

theorem contains_mark_append_cons {d : Char} (hd : d ∉ persistentMark.toList) (xs ys : List Char) :
    contains persistentMark.toList (xs ++ d :: ys) =
      (contains persistentMark.toList xs || contains persistentMark.toList ys) :=
  contains_append_cons hd

theorem contains_mark_cons {d : Char} (hd : d ∉ persistentMark.toList) (ys : List Char) :
    contains persistentMark.toList (d :: ys) = contains persistentMark.toList ys := by
  have h := contains_mark_append_cons hd [] ys
  exact h

def ChainCall.isLifetime : ChainCall → Bool
  | persistentLifetime => true
  | _ => false

/-- A text between quotes, when no quote is looked for. -/
theorem contains_quoted {piece : List Char} (hquote : '"' ∉ piece) (hne : piece ≠ []) {k : String}
    (hk : contains piece k.toList = false) (ys : List Char) :
    contains piece ((literal k).toList ++ ys) = contains piece ys := by
  have hnil : contains piece [] = false := by simpa [contains] using hne
  have htext : (literal k).toList ++ ys = [] ++ '"' :: (k.toList ++ '"' :: ys) := by
    have hquotes : "\"".toList = ['"'] := rfl
    simp only [literal, String.toList_append, hquotes, List.append_assoc, List.cons_append, List.nil_append]
  rw [htext, contains_append_cons hquote, contains_append_cons hquote, hnil, hk, Bool.false_or, Bool.false_or]

/-- The arguments of a call with two texts, when none of their marks is looked for. -/
theorem contains_pair {piece : List Char} (hpiece : ∀ c ∈ piece, c ∉ ['"', ',', ' ']) (hne : piece ≠ [])
    {k v : String} (hk : contains piece k.toList = false) (hv : contains piece v.toList = false) :
    contains piece (literal k ++ ", " ++ literal v).toList = false := by
  have hnot : ∀ c ∈ ['"', ',', ' '], c ∉ piece := fun c hc hmem => hpiece c hmem hc
  have hnil : contains piece [] = false := by simpa [contains] using hne
  have htext : (literal k ++ ", " ++ literal v).toList =
      (literal k).toList ++ ([] ++ ',' :: ([] ++ ' ' :: ((literal v).toList ++ []))) := by
    have hcomma : ", ".toList = [',', ' '] := rfl
    simp only [String.toList_append, hcomma, List.append_assoc, List.append_nil, List.cons_append,
      List.nil_append]
  rw [htext, contains_quoted (hnot _ (by decide)) hne hk, contains_append_cons (hnot _ (by decide)),
    contains_append_cons (hnot _ (by decide)), contains_quoted (hnot _ (by decide)) hne hv, hnil]
  rfl

/-- What has a dot in it is no part of a word. -/
theorem not_contains_of_isAlphanum {piece xs : List Char} (hdot : '.' ∈ piece)
    (h : ∀ c ∈ xs, c.isAlphanum = true) : contains piece xs = false :=
  not_contains_of_not_mem hdot (not_mem_of_isAlphanum h (by decide))

/-- Of the arguments of chained calls only those of a lifetime are the mark. -/
theorem contains_mark_arguments (h : c.IsPlain) :
    contains persistentMark.toList c.arguments.toList = c.isLifetime := by
  cases c with
  | persistentLifetime =>
    change contains persistentMark.toList "ContainerLifetime.Persistent".toList = true
    decide
  | portFromEnv =>
    change contains persistentMark.toList ("env: " ++ literal "PORT").toList = false
    decide
  | endpoint host target =>
    rcases h with ⟨rfl, rfl⟩
    change contains persistentMark.toList ("targetPort: " ++ "8080").toList = false
    decide
  | environment key value => exact contains_pair (by decide) (by decide) h.1.unmarked h.2.unmarked
  | bindMount source target => exact contains_pair (by decide) (by decide) h.1.unmarked h.2.unmarked
  | replicas count =>
    exact not_contains_of_isAlphanum (by decide) fun ch hch => isAlphanum_of_isDigit (isDigit_toString h.1 ch hch)
  | reference name => exact not_contains_of_isAlphanum (by decide) h.isAlphanum
  | waitFor name => exact not_contains_of_isAlphanum (by decide) h.isAlphanum

theorem contains_mark_call (hindent : IsIndent indent) (hc : c.IsPlain) (ys : List Char) :
    contains persistentMark.toList (callText indent c ++ ys) =
      (c.isLifetime || contains persistentMark.toList ys) := by
  have hmethod := isAlphanum_method c
  have hhead : c.method.toList.head? ≠ some 'P' := by
    cases c
    all_goals
      simp only [ChainCall.method]
      decide
  have hline := not_contains_mark (hindent.not_mem (by decide)) (not_mem_of_isAlphanum hmethod (by decide))
    (Or.inl hhead)
  have htext : callText indent c ++ ys = (('\n' :: indent) ++ '.' :: c.method.toList) ++
      '(' :: (c.arguments.toList ++ ')' :: ys) := by
    simp only [callText, toList_render, List.append_assoc, List.cons_append, List.nil_append]
  rw [htext, contains_mark_append_cons (by decide), hline, Bool.false_or,
    contains_mark_append_cons (by decide), contains_mark_arguments hc]

theorem contains_mark_chain {chain : List ChainCall} (hindent : IsIndent indent)
    (hchain : ∀ c ∈ chain, c.IsPlain) :
    contains persistentMark.toList (chain.flatMap (callText indent)) = chain.any ChainCall.isLifetime := by
  induction chain with
  | nil => rfl
  | cons c chain ih =>
    rw [List.flatMap_cons, contains_mark_call hindent (hchain c List.mem_cons_self), List.any_cons,
      ih fun c' hc' => hchain c' (List.mem_cons_of_mem c hc')]

theorem contains_mark_typeText (h : call.IsPlain) (ys : List Char) :
    contains persistentMark.toList (call.typeText ++ '(' :: ys) = contains persistentMark.toList ys := by
  rw [OpeningCall.typeText]
  cases hclass : call.className? with
  | none => exact contains_mark_cons (by decide) ys
  | some className =>
    have hvariable := (h.className className hclass).isAlphanum
    have hprojects : '.' ∉ "Projects".toList ∧ ¬ "ContainerLifetime".toList <:+ "Projects".toList := by decide
    have hname := not_contains_mark hprojects.1 (not_mem_of_isAlphanum hvariable (by decide))
      (Or.inr hprojects.2)
    have htext : ('<' :: ("Projects.".toList ++ className.toList ++ ['>'])) ++ '(' :: ys =
        '<' :: (("Projects".toList ++ '.' :: className.toList) ++ '>' :: '(' :: ys) := by
      have hdot : "Projects.".toList = "Projects".toList ++ ['.'] := rfl
      simp only [hdot, List.append_assoc, List.cons_append, List.nil_append]
    rw [htext, contains_mark_cons (by decide), contains_mark_append_cons (by decide), hname, Bool.false_or,
      contains_mark_cons (by decide)]

theorem contains_mark_opening (hgap : IsGap gap) (hs : s.IsFramed) (ys : List Char) :
    contains persistentMark.toList ((gap ++ ("var ".toList ++ (s.name.toList ++ (" = ".toList ++
      s.opening.render.toList)))) ++ ys) = contains persistentMark.toList ys := by
  rcases hs.opening.method with ⟨suffix, hadd, -⟩
  have hmethod := isAlphanum_openingMethod hs.opening
  have hleft : '.' ∉ gap ++ ("var ".toList ++ (s.name.toList ++ (" = ".toList ++
      s.opening.receiver.toList))) := by
    simp only [List.mem_append, not_or]
    exact ⟨fun hmem => absurd (hgap _ hmem) (by decide), by decide,
      not_mem_of_isAlphanum hs.name.isAlphanum (by decide), by decide,
      not_mem_of_isAlphanum hs.opening.receiver.isAlphanum (by decide)⟩
  have hhead : s.opening.method.toList.head? ≠ some 'P' := by
    rw [hadd, String.toList_append]
    exact fun heq => absurd (Option.some.inj heq) (by decide)
  have hline := not_contains_mark hleft (not_mem_of_isAlphanum hmethod (by decide)) (Or.inl hhead)
  have hname := not_contains_mark_of_not_mem (not_mem_openingName hs.opening (by decide : isNameChar '.' = false))
  obtain ⟨d, rest, hd, hdmark, hrest⟩ : ∃ d rest, s.opening.typeText ++ '(' :: (s.opening.arguments ++ ')' :: ys) =
      d :: rest ∧ d ∉ persistentMark.toList ∧
        contains persistentMark.toList rest = contains persistentMark.toList (d :: rest) := by
    rw [OpeningCall.typeText]
    cases s.opening.className? with
    | none => exact ⟨'(', _, rfl, by decide, (contains_mark_cons (by decide) _).symm⟩
    | some className => exact ⟨'<', _, rfl, by decide, (contains_mark_cons (by decide) _).symm⟩
  have htext : (gap ++ ("var ".toList ++ (s.name.toList ++ (" = ".toList ++ s.opening.render.toList)))) ++ ys =
      ((gap ++ ("var ".toList ++ (s.name.toList ++ (" = ".toList ++ s.opening.receiver.toList)))) ++
        '.' :: s.opening.method.toList) ++ d :: rest := by
    rw [← hd]
    simp only [OpeningCall.toList_render, List.append_assoc, List.cons_append, List.nil_append]
  have harguments : contains persistentMark.toList (s.opening.arguments ++ ')' :: ys) =
      contains persistentMark.toList ys := by
    rw [OpeningCall.arguments, List.append_assoc, contains_quoted (by decide) (by decide) hname,
      contains_mark_append_cons (by decide), hs.opening.more.unmarked, Bool.false_or]
  -- receiver and method are one dot apart, and a delimiter parts them from the arguments
  calc contains persistentMark.toList ((gap ++ ("var ".toList ++ (s.name.toList ++ (" = ".toList ++
          s.opening.render.toList)))) ++ ys)
      = contains persistentMark.toList rest := by
        rw [htext, contains_mark_append_cons hdmark, hline, Bool.false_or]
    _ = contains persistentMark.toList (s.opening.typeText ++ '(' :: (s.opening.arguments ++ ')' :: ys)) := by
        rw [hrest, hd]
    _ = contains persistentMark.toList ys := by
        rw [contains_mark_typeText hs.opening, harguments]

/-- The mark stands in the statements that ask for a persistent lifetime. -/
theorem contains_mark_stem (hgap : IsGap gap) (hindent : IsIndent indent) (hs : s.IsPlain) :
    contains persistentMark.toList (gap ++ stem indent s) = s.chain.any ChainCall.isLifetime := by
  rw [stem_eq, contains_mark_opening hgap hs.toIsFramed, contains_mark_chain hindent hs.chain]

/-! ## Semicolons -/

/-- Neither a semicolon nor a slash stands before the further arguments. -/
theorem not_mem_start (hs : s.IsFramed) {ch : Char} (hch : ch = ';' ∨ ch = '/') : ch ∉ start s := by
  have hword : ch.isAlphanum = false := by
    rcases hch with rfl | rfl
    all_goals decide
  have hname : ch ∉ s.opening.name.toList := by
    refine not_mem_openingName hs.opening ?_
    rcases hch with rfl | rfl
    all_goals decide
  have hlits : ch ∉ "var ".toList ∧ ch ∉ " = ".toList ∧ ch ≠ '.' ∧ ch ∉ "Projects.".toList ∧ ch ≠ '<' ∧
      ch ≠ '>' ∧ ch ≠ '(' ∧ ch ∉ "\"".toList := by
    rcases hch with rfl | rfl
    all_goals decide
  rcases hlits with ⟨hvar, hsign, hdot, hprojects, hless, hgreater, hopen, hquote⟩
  have htype : ch ∉ s.opening.typeText := by
    rw [OpeningCall.typeText]
    cases hclass : s.opening.className? with
    | none => exact List.not_mem_nil
    | some className =>
      have hvariable := (hs.opening.className className hclass).isAlphanum
      simp only [List.mem_append, List.mem_cons, not_or]
      exact ⟨hless, ⟨hprojects, not_mem_of_isAlphanum hvariable hword⟩, hgreater, List.not_mem_nil⟩
  simp only [start, literal, String.toList_append, List.mem_append, List.mem_cons, List.cons_append, not_or]
  exact ⟨hvar, not_mem_of_isAlphanum hs.name.isAlphanum hword, hsign,
    not_mem_of_isAlphanum hs.opening.receiver.isAlphanum hword, hdot,
    not_mem_of_isAlphanum (isAlphanum_openingMethod hs.opening) hword, htype, hopen, ⟨hquote, hname⟩, hquote⟩

theorem IsGap.not_mem (h : IsGap gap) {ch : Char} (hch : ch ≠ '\n') : ch ∉ gap :=
  fun hmem => hch (h ch hmem)

theorem semicolon_not_mem_call (hindent : IsIndent indent) (harguments : ';' ∉ c.arguments.toList) :
    ';' ∉ callText indent c := by
  have hline := hindent.not_mem (by decide : ';' ≠ ' ' ∧ ';' ≠ '\n')
  simp only [callText, toList_render, List.mem_cons, List.mem_append, not_or] at hline ⊢
  exact ⟨hline.1, hline.2, by decide, not_mem_of_isAlphanum (isAlphanum_method c) (by decide), by decide,
    harguments, by decide, List.not_mem_nil⟩

/-- Names and methods are words, so the semicolons of a statement stand in its chain. -/
theorem semicolon_not_mem_opening (hgap : IsGap gap) (hs : s.IsFramed) :
    ';' ∉ gap ++ ("var ".toList ++ (s.name.toList ++ (" = ".toList ++ s.opening.render.toList))) := by
  have htext : gap ++ ("var ".toList ++ (s.name.toList ++ (" = ".toList ++ s.opening.render.toList))) =
      gap ++ (start s ++ (s.opening.more.toList ++ [')'])) := by
    simp only [start, OpeningCall.toList_render, OpeningCall.arguments, List.append_assoc, List.cons_append]
  have hmore : ';' ∉ s.opening.more.toList := fun hmem => (hs.opening.more.chars _ hmem).2.2 rfl
  rw [htext]
  simp only [List.mem_append, List.mem_singleton, not_or]
  exact ⟨hgap.not_mem (by decide), not_mem_start hs (Or.inl rfl), hmore, by decide⟩

theorem semicolon_not_mem_stem (hgap : IsGap gap) (hindent : IsIndent indent) (hs : s.IsPlain) :
    ';' ∉ gap ++ stem indent s := by
  rw [stem_eq, List.mem_append, not_or]
  refine ⟨semicolon_not_mem_opening hgap hs.toIsFramed, fun hmem => ?_⟩
  rcases List.mem_flatMap.1 hmem with ⟨c, hc, hmem⟩
  have harguments : ';' ∉ c.arguments.toList := fun hmem => absurd ((hs.chain c hc).argument _ hmem) (by decide)
  exact semicolon_not_mem_call hindent harguments hmem

/-! ## Comments -/

theorem tidy_call (hindent : IsIndent indent) (hc : c.IsInert) (ys : List Char) :
    Tidy (callText indent c) ys := by
  have hline : '\n' ∉ c.render.toList := by
    simp only [toList_render, List.mem_cons, List.mem_append, not_or]
    exact ⟨by decide, not_mem_of_isAlphanum (isAlphanum_method c) (by decide), by decide,
      hc.line, by decide, List.not_mem_nil⟩
  have hindented : Tidy ('\n' :: indent) (c.render.toList ++ ys) := by
    rw [toList_render]
    exact tidy_of_not_mem (hindent.not_mem (by decide)) (by decide) _
  exact hindented.append (tidy_of_not_mem_break hline ys)

theorem tidy_chain {chain : List ChainCall} (hindent : IsIndent indent) (hchain : ∀ c ∈ chain, c.IsInert)
    (ys : List Char) : Tidy (chain.flatMap (callText indent)) ys := by
  induction chain with
  | nil => exact tidy_of_not_mem_break List.not_mem_nil ys
  | cons c chain ih =>
    have htail := ih fun c' hc' => hchain c' (List.mem_cons_of_mem c hc')
    exact Tidy.append (tidy_call hindent (hchain c List.mem_cons_self) _) htail

/-- Only a name can end its line, and then a quote follows. -/
theorem tidy_stem (hgap : IsGap gap) (hindent : IsIndent indent) (hs : s.IsInert) (ys : List Char) :
    Tidy (gap ++ stem indent s) ys := by
  obtain ⟨init, hinit⟩ : ∃ init, start s = init ++ ['"'] := by
    refine ⟨"var ".toList ++ (s.name.toList ++ (" = ".toList ++ (s.opening.receiver.toList ++
      ('.' :: s.opening.method.toList ++ (s.opening.typeText ++ '(' :: ("\"".toList ++ s.opening.name.toList)))))),
      ?_⟩
    have hquote : "\"".toList = ['"'] := rfl
    simp only [start, literal, String.toList_append, hquote, List.append_assoc, List.cons_append]
  have hslash : '/' ∉ gap ++ init := by
    have hstart := not_mem_start hs.toIsFramed (Or.inr rfl : '/' = ';' ∨ '/' = '/')
    rw [hinit] at hstart
    simp only [List.mem_append, not_or] at hstart ⊢
    exact ⟨hgap.not_mem (by decide), hstart.1⟩
  have htext : gap ++ stem indent s = (gap ++ init) ++ (['"'] ++ (s.opening.more.toList ++
      ([')'] ++ s.chain.flatMap (callText indent)))) := by
    simp only [stem_eq_start, hinit, List.append_assoc, List.cons_append, List.nil_append]
  rw [htext]
  refine Tidy.append (tidy_of_not_mem hslash (by decide) _) (Tidy.append (tidy_of_not_mem_break (by decide) _) ?_)
  exact Tidy.append (hs.opening.more.tidy _)
    (Tidy.append (tidy_of_not_mem_break (by decide) _) (tidy_chain hindent hs.chain ys))

end AppHost
end HostTopology
