import HostTopology.Proofs.Numbering
import HostTopology.Proofs.Places

/-!
# Values — environment variables of a compose file with their values in double quotes

A value in double quotes can be an item of a list, with its key, or the value of a key. In both, comments are taken
off before quotes are:

* `dropComment_eq_self`, `dropComment_append` — a comment begins at a number sign that follows a blank;
* `variableLine` — a variable in one of the two forms;
* `readLine_variableLine` — the line adds one variable, which is the one that is meant unless there is a comment;
* `variable_read_iff` — which values are read as they are.
-/

namespace HostTopology

namespace Compose

open Text

variable {cs xs ys : List Char} {c : Char}

/-! ## Comments -/

/-- Somewhere a number sign follows a blank. -/
def hasComment : List Char → Bool
  | b :: c :: cs => isBlank b && c = '#' || hasComment (c :: cs)
  | _ => false

theorem mem_of_hasComment (h : hasComment cs = true) : '#' ∈ cs.tail := by
  induction cs using hasComment.induct with
  | case1 b c cs ih =>
    rw [hasComment, Bool.or_eq_true] at h
    rcases h with hsign | hrest
    · have hc : c = '#' := by simpa using (Bool.and_eq_true_iff.1 hsign).2
      exact hc ▸ List.mem_cons_self
    · exact List.mem_of_mem_tail (ih hrest)
  | case2 cs hcs =>
    rw [hasComment.eq_2 cs hcs] at h
    cases h

/-- More blanks before the number sign make no difference. -/
theorem hasComment_of_dropWhile (hc : isBlank c = true) (h : (cs.dropWhile isBlank).head? = some '#') :
    hasComment (c :: cs) = true := by
  induction cs generalizing c with
  | nil => cases h
  | cons d cs ih =>
    rw [hasComment, Bool.or_eq_true]
    by_cases hd : isBlank d = true
    · rw [List.dropWhile_cons_of_pos hd] at h
      exact .inr (ih hd h)
    · rw [List.dropWhile_cons_of_neg hd] at h
      exact .inl (by simpa [hc] using h)

theorem hasComment_cons (c : Char) (h : hasComment cs = true) : hasComment (c :: cs) = true := by
  cases cs with
  | nil => cases h
  | cons d cs => rw [hasComment, h, Bool.or_true]

theorem hasComment_concat (hc : c ≠ '#') (cs : List Char) : hasComment (cs ++ [c]) = hasComment cs := by
  induction cs using hasComment.induct with
  | case1 b d cs ih =>
    rw [List.cons_append, List.cons_append, hasComment, hasComment, ← List.cons_append, ih]
  | case2 cs hcs =>
    cases cs with
    | nil => rfl
    | cons b cs =>
      cases cs with
      | nil => simp [hasComment, hc]
      | cons d cs => exact absurd rfl (hcs b d cs)

theorem dropComment_eq_self (h : hasComment cs = false) : dropComment cs = cs := by
  induction cs with
  | nil => rfl
  | cons c cs ih =>
    have hkept : ¬ (isBlank c && (cs.dropWhile isBlank).head? = some '#') = true := by
      intro hcut
      obtain ⟨hc, hsign⟩ := Bool.and_eq_true_iff.1 hcut
      rw [hasComment_of_dropWhile hc (by simpa using hsign)] at h
      cases h
    have hrest : hasComment cs = false := by
      by_contra hrest
      rw [hasComment_cons c (by simpa using hrest)] at h
      cases h
    rw [dropComment, if_neg hkept, ih hrest]

/-- What follows a comment is part of it. -/
theorem dropComment_append (h : hasComment cs = true) (ys : List Char) :
    dropComment (cs ++ ys) = dropComment cs := by
  induction cs with
  | nil => cases h
  | cons c cs ih =>
    have hmem : '#' ∈ cs := mem_of_hasComment h
    -- the number sign is no blank, so that blanks are not looked for behind it
    have hhead : ((cs ++ ys).dropWhile isBlank).head? = (cs.dropWhile isBlank).head? := by
      rw [List.dropWhile_append]
      split
      · rename_i hempty
        exact absurd (List.dropWhile_eq_nil_iff.1 (List.isEmpty_iff.1 hempty) '#' hmem) (by decide)
      · rename_i hne
        obtain ⟨d, tail, hcons⟩ := List.exists_cons_of_ne_nil (fun hnil => hne (List.isEmpty_iff.2 hnil))
        rw [hcons]
        rfl
    rw [List.cons_append, dropComment, dropComment, hhead]
    split
    · rfl
    · rename_i hkept
      refine congrArg (c :: ·) (ih ?_)
      obtain ⟨d, cs, rfl⟩ := List.exists_cons_of_ne_nil (List.ne_nil_of_mem hmem)
      rw [hasComment, Bool.or_eq_true] at h
      -- a number sign right here would have cut the text
      refine h.resolve_left fun hsign => hkept ?_
      obtain ⟨hc, hd⟩ := Bool.and_eq_true_iff.1 hsign
      have hd : d = '#' := by simpa using hd
      rw [hd, List.dropWhile_cons_of_neg (by decide), hc]
      rfl

theorem dropComment_append_of_not_isBlank (h : ∀ c ∈ xs, isBlank c = false) (ys : List Char) :
    dropComment (xs ++ ys) = xs ++ dropComment ys := by
  induction xs with
  | nil => rfl
  | cons x xs ih =>
    rw [List.cons_append, dropComment, if_neg (by simp [h x List.mem_cons_self]),
      ih fun c hc => h c (List.mem_cons_of_mem x hc), List.cons_append]

theorem prefix_dropComment (cs : List Char) : dropComment cs <+: cs := by
  induction cs with
  | nil => exact List.prefix_rfl
  | cons c cs ih =>
    rw [dropComment]
    split
    · exact List.nil_prefix
    · exact (List.prefix_cons_inj c).2 ih

/-! ## Quotes -/

theorem unquote_quoted (cs : List Char) : unquote ('"' :: (cs ++ ['"'])) = cs := by
  rw [unquote, trim_of_ends (by decide) (by decide)]
  simp [isQuote]

theorem unquote_of_not_isQuote (hc : isQuote c = false) (h : trim (c :: cs) = c :: cs) :
    unquote (c :: cs) = c :: cs := by
  rw [unquote, h]
  simp [hc]

/-- A quote that is not closed is kept. -/
theorem unquote_open (h : '"' ∉ cs) : unquote ('"' :: cs) = '"' :: trimRight cs := by
  have hlast : (trimRight cs).getLast? ≠ some '"' := by
    exact fun hlast => h (mem_of_mem_trimRight (List.mem_of_getLast? hlast))
  rw [unquote, trim_cons (by decide)]
  simp [hlast]

/-! ## Lines with variables -/

/-- An item of a list, or an entry with a key. -/
inductive Style where
  | item
  | entry
deriving DecidableEq

/-- The line of a variable with its value, or both, in double quotes. -/
def variableLine (margin : List Char) (v : EnvVar) : Style → Line
  | .item => margin ++ '-' :: ' ' :: '"' :: (v.key.toList ++ '=' :: v.value.toList ++ ['"'])
  | .entry => margin ++ (v.key.toList ++ ':' :: ' ' :: '"' :: (v.value.toList ++ ['"']))

/-- Blanks that make a line part of a section whose key is behind some blanks. Items can be below the key. -/
def Style.Fits (outer : Nat) (margin : List Char) : Style → Prop
  | .item => margin ≠ []
  | .entry => outer < margin.length ∧ 2 < margin.length

instance (outer : Nat) (margin : List Char) : (style : Style) → Decidable (style.Fits outer margin)
  | .item => inferInstanceAs (Decidable (_ ≠ _))
  | .entry => inferInstanceAs (Decidable (_ ∧ _))

/-- The variable that a line is read as. -/
def variableOf (v : EnvVar) : Style → EnvVar
  | .item => Service.envVarOf (unquote (dropComment ('"' :: (v.key.toList ++ '=' :: v.value.toList ++ ['"']))))
  | .entry => ⟨v.key, String.ofList (unquote (trim (dropComment ('"' :: (v.value.toList ++ ['"'])))))⟩

section Variables

variable {margin : List Char} {v : EnvVar} {style : Style} {outer : Nat}

/-- A comment takes the closing quote off. -/
theorem dropComment_quoted (hxs : ∀ c ∈ xs, isBlank c = false) (cs : List Char) :
    dropComment (xs ++ (cs ++ ['"'])) = if hasComment cs then xs ++ dropComment cs else xs ++ (cs ++ ['"']) := by
  rw [dropComment_append_of_not_isBlank hxs]
  split
  · rename_i hcomment
    rw [dropComment_append hcomment]
  · rename_i hnone
    rw [dropComment_eq_self]
    rw [hasComment_concat (by decide)]
    simpa using hnone

/-- The item without comment and quotes. -/
theorem unquote_item (hv : v.IsQuotable) :
    unquote (dropComment ('"' :: (v.key.toList ++ '=' :: v.value.toList ++ ['"']))) =
      if hasComment v.value.toList then '"' :: (v.key.toList ++ '=' :: trimRight (dropComment v.value.toList))
      else v.key.toList ++ '=' :: v.value.toList := by
  have hvisible : ∀ c ∈ '"' :: v.key.toList ++ ['='], isBlank c = false := by
    have hkey := hv.visible_key
    simp only [List.cons_append, List.mem_cons, List.mem_append, List.not_mem_nil, or_false]
    rintro c (rfl | hc | rfl)
    · decide
    · exact hkey c hc
    · decide
  have hraw : '"' :: v.key.toList ++ ['='] ++ (v.value.toList ++ ['"']) =
      '"' :: (v.key.toList ++ '=' :: v.value.toList ++ ['"']) := by simp
  rw [← hraw, dropComment_quoted hvisible]
  split
  · have hquote : '"' ∉ v.key.toList := hv.not_mem_key (by decide)
    have hrest : '"' ∉ dropComment v.value.toList := fun hmem =>
      hv.value_unquoted ((prefix_dropComment _).subset hmem)
    -- the comment begins within the value, so that the quote in front has no partner
    have hcut : '"' :: v.key.toList ++ ['='] ++ dropComment v.value.toList =
        '"' :: (v.key.toList ++ '=' :: dropComment v.value.toList) := by simp
    rw [hcut, unquote_open (by simp [hquote, hrest]), trimRight_append_cons (by decide)]
  · rw [hraw, unquote_quoted]

theorem variableOf_item (hv : v.IsQuotable) (htrim : trim v.value.toList = v.value.toList) :
    variableOf v .item = v ↔ hasComment v.value.toList = false := by
  have hequals : '=' ∉ v.key.toList := hv.not_mem_key (by decide)
  have hquote : '"' ∉ v.key.toList := hv.not_mem_key (by decide)
  rw [variableOf, unquote_item hv]
  cases hcomment : hasComment v.value.toList with
  | false =>
    rw [if_neg (by decide), Service.envVarOf, cut_append_cons hequals]
    simp [htrim, trim_of_visible hv.visible_key]
  | true =>
    have hkey : '=' ∉ '"' :: v.key.toList := by simpa using hequals
    rw [if_pos rfl, ← List.cons_append, Service.envVarOf, cut_append_cons hkey]
    -- the quote in front is a part of the key
    refine iff_of_false (fun heq => hquote ?_) (by decide)
    have hkeys := congrArg String.toList (congrArg EnvVar.key heq)
    rw [String.toList_ofList, trim_cons (by decide)] at hkeys
    exact hkeys ▸ List.mem_cons_self

theorem variableOf_entry (hv : v.IsQuotable) :
    variableOf v .entry = v ↔ hasComment v.value.toList = false := by
  have hvisible : ∀ c ∈ ['"'], isBlank c = false := by decide
  have hdrop := dropComment_quoted hvisible v.value.toList
  rw [List.singleton_append, List.singleton_append] at hdrop
  cases hcomment : hasComment v.value.toList with
  | false =>
    rw [variableOf, hdrop, hcomment, if_neg (by decide), trim_of_ends (by decide) (by decide), unquote_quoted]
    simp
  | true =>
    have hopen : '"' ∉ trimRight (dropComment v.value.toList) := fun hmem =>
      hv.value_unquoted ((prefix_dropComment _).subset (mem_of_mem_trimRight hmem))
    rw [variableOf, hdrop, hcomment, if_pos rfl, trim_cons (by decide), unquote_open hopen]
    -- the quote in front is a part of the value
    refine iff_of_false (fun heq => hv.value_unquoted ?_) (by decide)
    have hvalues := congrArg String.toList (congrArg EnvVar.value heq)
    rw [String.toList_ofList] at hvalues
    exact hvalues ▸ List.mem_cons_self

theorem variableOf_eq_self_iff (hv : v.IsQuotable) (htrim : trim v.value.toList = v.value.toList) (style : Style) :
    variableOf v style = v ↔ hasComment v.value.toList = false := by
  cases style with
  | item => exact variableOf_item hv htrim
  | entry => exact variableOf_entry hv

/-- The entry of a variable in a section of variables. -/
theorem readLine_variable (hv : v.IsQuotable) (hmargin : ∀ c ∈ margin, isBlank c = true)
    (houter : outer < margin.length) (value : List Char) (s : Service) :
    (⟨s, some (.environment, outer)⟩ : Open).readLine (margin ++ (v.key.toList ++ ':' :: value)) =
      ⟨{ s with envVars := s.envVars ++
          [⟨v.key, String.ofList (unquote (trim (dropComment (trimLeft (trimRight value)))))⟩] },
        some (.environment, outer)⟩ := by
  obtain ⟨c, key, hkey⟩ := List.exists_cons_of_ne_nil hv.key_toList_ne
  have hword := hv.key_word
  rw [hkey, List.forall_mem_cons] at hword
  have hname : ∀ d ∈ key, isNameChar d = true := fun d hd => by simp [isNameChar, hword.2 d hd]
  rw [hkey, Open.readLine_entry hmargin hword.1 hname, ← hkey]
  simp only [if_pos houter, Service.addEntry, String.ofList_toList]

/-- The line adds one variable. -/
theorem readLine_variableLine (hv : v.IsQuotable) (hmargin : ∀ c ∈ margin, isBlank c = true)
    (hfits : style.Fits outer margin) (s : Service) :
    (⟨s, some (.environment, outer)⟩ : Open).readLine (variableLine margin v style) =
      ⟨{ s with envVars := s.envVars ++ [variableOf v style] }, some (.environment, outer)⟩ := by
  have hquote : isBlank '"' = false := by decide
  cases style with
  | item =>
    have htrim := trim_of_ends hquote hquote (v.key.toList ++ '=' :: v.value.toList)
    have hitem := unquote_item hv
    rw [variableLine, Open.readLine_item hmargin, trimLeft_trimRight_cons isBlank_space htrim, Service.addItem]
    split
    · -- neither a quote nor an equals sign is left out
      rename_i hnil
      rw [hnil] at hitem
      split at hitem <;> simp at hitem
    · rfl
  | entry =>
    have htrim := trim_of_ends hquote hquote v.value.toList
    rw [variableLine, readLine_variable hv hmargin hfits.1, trimLeft_trimRight_cons isBlank_space htrim, variableOf]

/-- The line adds its variable to what is imported, behind those of its service before it. -/
theorem read_variableLine {p : Place} {before : List Line} {r : Registry} {reserved : List String}
    {fileName text text' : String} (hv : v.IsQuotable) (hmargin : ∀ c ∈ margin, isBlank c = true)
    (hbefore : ∀ l ∈ before, IsInner l) (hopen : (p.opened before).within = some (.environment, outer))
    (hfits : style.Fits outer margin) (htext : Text.lines text.toList = p.lines before)
    (htext' : Text.lines text'.toList = p.lines (before ++ [variableLine margin v style])) :
    Format.compose.read r reserved fileName text' = (Format.compose.read r reserved fileName text).map
      (Imported.insertVariables p.earlier.length (p.opened before).service.envVars.length [variableOf v style]) := by
  have hinner : IsInner (variableLine margin v style) := by
    cases style with
    | item => exact isInner_item hmargin hfits _
    | entry => exact isInner_append hmargin hfits.2 _
  -- what the lines that follow add does not depend on the variables before them
  let bare : Open := { p.opened before with service := { (p.opened before).service with envVars := [] } }
  have hfirst : p.opened before = bare.withVariables (p.opened before).service.envVars := by
    simp [bare, Open.withVariables, Service.withVariables]
  have hmore : p.opened (before ++ [variableLine margin v style]) =
      bare.withVariables ((p.opened before).service.envVars ++ [variableOf v style]) := by
    have hline := readLine_variableLine hv hmargin hfits (p.opened before).service
    rw [← hopen] at hline
    rw [Place.opened, seen_append, List.foldl_append, ← Place.opened, Open.foldl_seen, List.foldl_cons, List.foldl_nil]
    refine hline.trans ?_
    simp [bare, Open.withVariables, Service.withVariables]
  have hservices := p.services_eq hbefore htext
  have hbody : ∀ l ∈ before ++ [variableLine margin v style], IsInner l :=
    List.forall_mem_append.2 ⟨hbefore, List.forall_mem_singleton.2 hinner⟩
  have hservices' := p.services_eq hbody htext'
  rw [hfirst, p.finished_withVariables] at hservices
  rw [hmore, p.finished_withVariables] at hservices'
  exact read_insertVariables hservices hservices'

/-- A value in double quotes is read as it is exactly if no number sign in it follows a blank, in an item as well as
in an entry. -/
theorem variable_read_iff {p : Place} {before : List Line} {text text' : String} (hv : v.IsQuotable)
    (htrim : trim v.value.toList = v.value.toList) (hmargin : ∀ c ∈ margin, isBlank c = true)
    (hbefore : ∀ l ∈ before, IsInner l) (hopen : (p.opened before).within = some (.environment, outer))
    (hfits : style.Fits outer margin) (htext : Text.lines text.toList = p.lines before)
    (htext' : Text.lines text'.toList = p.lines (before ++ [variableLine margin v style])) (r : Registry)
    (reserved : List String) (fileName : String) :
    Format.compose.read r reserved fileName text' = (Format.compose.read r reserved fileName text).map
        (Imported.insertVariables p.earlier.length (p.opened before).service.envVars.length [v]) ↔
      hasComment v.value.toList = false := by
  have hplace : p.earlier.length < (Sketch.ofCompose r text).drafts.length := by
    simp [drafts_ofCompose, p.services_eq hbefore htext]
  rw [read_variableLine hv hmargin hbefore hopen hfits htext htext', Format.map_insertVariables_inj rfl hplace,
    List.singleton_inj, variableOf_eq_self_iff hv htrim style]

end Variables

/-- A service, and the beginning of its environment. -/
def apiPlace : Place where
  front := ["services:".toList]
  name := "api"
  head := "  api:".toList
  rest := ["      Y: 2".toList]
  names := by decide +kernel
  under := by decide +kernel

def apiLines : List Line :=
  ["    environment:".toList, "      X: 1".toList]

/-- The same as a text, with one line more. -/
def apiText (line : String) : String :=
  "services:\n  api:\n    environment:\n      X: 1\n" ++ line ++ "      Y: 2\n"

theorem apiText_empty : Text.lines (apiText "").toList = apiPlace.lines apiLines := by
  decide +kernel

theorem motto_read :
    Format.compose.read .standard [] "" (apiText "      - \"MOTTO=it's: a=b#c, 'd'\"\n") =
      (Format.compose.read .standard [] "" (apiText "")).map
        (Imported.insertVariables 0 1 [⟨"MOTTO", "it's: a=b#c, 'd'"⟩]) ∧
    Format.compose.read .standard [] "" (apiText "      MOTTO: \"it's: a=b#c, 'd'\"\n") =
      (Format.compose.read .standard [] "" (apiText "")).map
        (Imported.insertVariables 0 1 [⟨"MOTTO", "it's: a=b#c, 'd'"⟩]) := by
  have hopen : (apiPlace.opened apiLines).within = some (.environment, 4) := by decide +kernel
  have hread (style : Style) (line : String) (hfits : style.Fits 4 "      ".toList)
      (hline : Text.lines (apiText line).toList =
        apiPlace.lines (apiLines ++ [variableLine "      ".toList ⟨"MOTTO", "it's: a=b#c, 'd'"⟩ style])) :=
    (variable_read_iff (by decide) (by decide) (by decide) (by decide +kernel) hopen hfits apiText_empty hline
      .standard [] "").2 (by decide)
  exact ⟨hread .item _ (by decide) (by decide +kernel), hread .entry _ (by decide) (by decide +kernel)⟩

/-- A comment is seen in a value. The quote in front of the item, or of the value, is kept. -/
theorem motto_not_read : EnvVar.IsQuotable ⟨"MOTTO", "a #b"⟩ ∧ trim "a #b".toList = "a #b".toList ∧
    (Format.compose.read .standard [] "" (apiText "      - \"MOTTO=a #b\"\n") =
        (Format.compose.read .standard [] "" (apiText "")).map
          (Imported.insertVariables 0 1 [⟨"\"MOTTO", "a"⟩]) ∧
      Format.compose.read .standard [] "" (apiText "      - \"MOTTO=a #b\"\n") ≠
        (Format.compose.read .standard [] "" (apiText "")).map
          (Imported.insertVariables 0 1 [⟨"MOTTO", "a #b"⟩])) ∧
    Format.compose.read .standard [] "" (apiText "      MOTTO: \"a #b\"\n") =
        (Format.compose.read .standard [] "" (apiText "")).map
          (Imported.insertVariables 0 1 [⟨"MOTTO", "\"a"⟩]) ∧
      Format.compose.read .standard [] "" (apiText "      MOTTO: \"a #b\"\n") ≠
        (Format.compose.read .standard [] "" (apiText "")).map
          (Imported.insertVariables 0 1 [⟨"MOTTO", "a #b"⟩]) := by
  have hopen : (apiPlace.opened apiLines).within = some (.environment, 4) := by decide +kernel
  have hplace : 0 < (Sketch.ofCompose .standard (apiText "")).drafts.length := by decide +kernel
  have hread (style : Style) (line : String) (found : EnvVar) (hfits : style.Fits 4 "      ".toList)
      (hline : Text.lines (apiText line).toList =
        apiPlace.lines (apiLines ++ [variableLine "      ".toList ⟨"MOTTO", "a #b"⟩ style]))
      (hfound : variableOf ⟨"MOTTO", "a #b"⟩ style = found) (hother : found ≠ ⟨"MOTTO", "a #b"⟩) :
      Format.compose.read .standard [] "" (apiText line) =
          (Format.compose.read .standard [] "" (apiText "")).map (Imported.insertVariables 0 1 [found]) ∧
        Format.compose.read .standard [] "" (apiText line) ≠
          (Format.compose.read .standard [] "" (apiText "")).map
            (Imported.insertVariables 0 1 [⟨"MOTTO", "a #b"⟩]) := by
    have hadded : Format.compose.read .standard [] "" (apiText line) =
        (Format.compose.read .standard [] "" (apiText "")).map (Imported.insertVariables 0 1 [found]) :=
      hfound ▸ read_variableLine (by decide) (by decide) (by decide +kernel) hopen hfits apiText_empty hline
    refine ⟨hadded, ?_⟩
    rw [hadded, Ne, Format.map_insertVariables_inj rfl hplace, List.singleton_inj]
    exact hother
  exact ⟨by decide, by decide, hread .item _ _ (by decide) (by decide +kernel) (by decide) (by decide),
    hread .entry _ _ (by decide) (by decide +kernel) (by decide) (by decide)⟩

end Compose
end HostTopology
