import HostTopology.Proofs.Values

/-!
# Sections — different spellings of what a service needs, sets and exposes

A section of a service is a list in its line, a list of items below it, or a mapping below it.

* `Contents` — what a section says, and `Spells` — the lines that say it;
* `foldl_spelled` — all of them make the same service, but a list in one line leaves no section open;
* `closes` — lines that close an open section before they add to it;
* `read_respelled` — spellings can be exchanged if both leave the section open, or neither does, or if the lines that
  follow close it.
-/

namespace HostTopology

namespace Compose

open Text

/-! ## Contents -/

/-- What a section says: names of services, variables, or ports. -/
inductive Contents where
  | dependsOn (names : List (List Char))
  | environment (vs : List EnvVar)
  | ports (texts : List (List Char))

/-- A name that begins with a letter, a digit or a low line. -/
def IsName : List Char → Prop
  | [] => False
  | c :: cs => isWord c = true ∧ ∀ d ∈ cs, isNameChar d = true

instance : (cs : List Char) → Decidable (IsName cs)
  | [] => inferInstanceAs (Decidable False)
  | _ :: _ => inferInstanceAs (Decidable (_ ∧ _))

/-- A key that is a word, and a value without quotes, number signs, and blanks around it. -/
@[mk_iff]
structure IsBare (v : EnvVar) : Prop extends v.IsQuotable where
  value_single : '\'' ∉ v.value.toList
  value_sign : '#' ∉ v.value.toList
  value_trim : trim v.value.toList = v.value.toList

instance (v : EnvVar) : Decidable (IsBare v) :=
  decidable_of_iff _ (isBare_iff v).symm

def isPortChar (c : Char) : Bool :=
  c.isAlphanum || ['.', ':', '/', '-'].contains c

def IsPort (port : List Char) : Prop :=
  port ≠ [] ∧ ∀ c ∈ port, isPortChar c = true

instance (port : List Char) : Decidable (IsPort port) :=
  inferInstanceAs (Decidable (_ ∧ _))

/-- The item of a list that sets a variable. -/
def variableItem (v : EnvVar) : List Char :=
  v.key.toList ++ '=' :: v.value.toList

namespace Contents

def IsPlain : Contents → Prop
  | dependsOn names => ∀ name ∈ names, IsName name
  | environment vs => ∀ v ∈ vs, IsBare v
  | ports texts => ∀ port ∈ texts, IsPort port

instance : (c : Contents) → Decidable c.IsPlain
  | dependsOn names => inferInstanceAs (Decidable (∀ name ∈ names, IsName name))
  | environment vs => inferInstanceAs (Decidable (∀ v ∈ vs, IsBare v))
  | ports texts => inferInstanceAs (Decidable (∀ port ∈ texts, IsPort port))

def sec : Contents → Section
  | dependsOn _ => .dependsOn
  | environment _ => .environment
  | ports _ => .ports

/-- The items of a list that says it. -/
def items : Contents → List (List Char)
  | dependsOn names => names
  | environment vs => vs.map variableItem
  | ports texts => texts

/-- The service that the contents are added to. -/
def addTo (c : Contents) (s : Service) : Service :=
  c.items.foldl (fun s item => s.addItem c.sec item) s

end Contents

/-! ## Spellings -/

def Section.key : Section → String
  | ports => "ports"
  | dependsOn => "depends_on"
  | environment => "environment"
  | volumes => "volumes"

theorem Section.ofKey?_key (sec : Section) : ofKey? sec.key = some sec := by
  cases sec <;> rfl

def spaces (n : Nat) : List Char :=
  List.replicate n ' '

theorem isBlank_spaces (n : Nat) : ∀ c ∈ spaces n, isBlank c = true :=
  fun _ hc => List.eq_of_mem_replicate hc ▸ isBlank_space

/-- The line of a section in a service, with what follows the colon. -/
def sectionLine (sec : Section) (value : List Char) : Line :=
  spaces 4 ++ (sec.key.toList ++ ':' :: value)

/-- Items between square brackets. -/
def inlineText (items : List (List Char)) : List Char :=
  ' ' :: '[' :: ([',', ' '].intercalate items ++ [']'])

def itemLine (item : List Char) : Line :=
  spaces 6 ++ '-' :: ' ' :: item

/-- A dependency with the condition that is waited for. -/
def needLines (need : List Char × List Char) : List Line :=
  [spaces 6 ++ (need.1 ++ [':']), spaces 8 ++ ("condition".toList ++ ':' :: ' ' :: need.2)]

def entryLine (v : EnvVar) : Line :=
  spaces 6 ++ (v.key.toList ++ ':' :: ' ' :: v.value.toList)

/-- An item as it is, or in double quotes. -/
def spelled (item : List Char × Bool) : List Char :=
  if item.2 then '"' :: (item.1 ++ ['"']) else item.1

inductive Form where
  | inline
  | items
  | entries
deriving DecidableEq

/-- The lines that say something, in a form. -/
inductive Spells : Contents → Form → List Line → Prop
  | inlineNeeds (names : List (List Char)) :
    Spells (.dependsOn names) .inline [sectionLine .dependsOn (inlineText names)]
  | itemNeeds (names : List (List Char)) :
    Spells (.dependsOn names) .items (sectionLine .dependsOn [] :: names.map itemLine)
  | entryNeeds (needs : List (List Char × List Char)) (h : ∀ need ∈ needs, trim need.2 ≠ []) :
    Spells (.dependsOn (needs.map Prod.fst)) .entries (sectionLine .dependsOn [] :: needs.flatMap needLines)
  | itemVariables (vs : List EnvVar) :
    Spells (.environment vs) .items (sectionLine .environment [] :: (vs.map variableItem).map itemLine)
  | entryVariables (vs : List EnvVar) :
    Spells (.environment vs) .entries (sectionLine .environment [] :: vs.map entryLine)
  | inlinePorts (ports : List (List Char × Bool)) :
    Spells (.ports (ports.map Prod.fst)) .inline [sectionLine .ports (inlineText (ports.map spelled))]
  | itemPorts (ports : List (List Char × Bool)) :
    Spells (.ports (ports.map Prod.fst)) .items (sectionLine .ports [] :: (ports.map spelled).map itemLine)

/-! ## Items -/

/-- A text that is read as it is, with or without double quotes around it. -/
structure IsItem (item : List Char) : Prop where
  ne : item ≠ []
  trim_eq : trim item = item
  unquoted : ∀ c ∈ item, isQuote c = false
  sign : '#' ∉ item

section Items

variable {item : List Char} {quoted : Bool} {items : List (List Char × Bool)} {v : EnvVar} {s : Service} {sec : Section}

theorem hasComment_of_not_mem {cs : List Char} (h : '#' ∉ cs) : hasComment cs = false := by
  by_contra hcomment
  exact h (List.mem_of_mem_tail (mem_of_hasComment (by simpa using hcomment)))

theorem not_mem_spelled {c : Char} (hc : c ≠ '"') (h : c ∉ item) (quoted : Bool) : c ∉ spelled (item, quoted) := by
  cases quoted with
  | false => exact h
  | true => simp [spelled, hc, h]

theorem map_spelled_bare (items : List (List Char)) : (items.map (·, false)).map spelled = items := by
  simp [spelled, Function.comp_def]

theorem map_fst_bare (items : List (List Char)) : (items.map (·, false)).map Prod.fst = items := by
  simp [Function.comp_def]

theorem IsItem.trim_spelled (h : IsItem item) (quoted : Bool) : trim (spelled (item, quoted)) = spelled (item, quoted) := by
  cases quoted with
  | false => exact h.trim_eq
  | true => exact trim_of_ends (by decide) (by decide) item

theorem IsItem.spelled_ne (h : IsItem item) (quoted : Bool) : spelled (item, quoted) ≠ [] := by
  cases quoted with
  | false => exact h.ne
  | true => exact List.cons_ne_nil _ _

theorem IsItem.unquote_spelled (h : IsItem item) (quoted : Bool) : unquote (spelled (item, quoted)) = item := by
  cases quoted with
  | false =>
    obtain ⟨c, cs, rfl⟩ := List.exists_cons_of_ne_nil h.ne
    exact unquote_of_not_isQuote (h.unquoted c List.mem_cons_self) h.trim_eq
  | true => exact unquote_quoted item

/-- An item is read without the quotes around it. -/
theorem IsItem.read (h : IsItem item) (quoted : Bool) : unquote (dropComment (spelled (item, quoted))) = item := by
  rw [dropComment_eq_self (hasComment_of_not_mem (not_mem_spelled (by decide) h.sign quoted)), h.unquote_spelled]

theorem addItem_spelled (h : IsItem item) (quoted : Bool) (s : Service) (sec : Section) :
    s.addItem sec (spelled (item, quoted)) = s.addItem sec item := by
  have hbare : unquote (dropComment item) = item := h.read false
  rw [Service.addItem, h.read quoted, Service.addItem, hbare]

theorem addItem_dependsOn (h : IsItem item) (s : Service) :
    s.addItem .dependsOn item = { s with dependsOn := s.dependsOn ++ [String.ofList item] } := by
  have hbare : unquote (dropComment item) = item := h.read false
  obtain ⟨c, cs, rfl⟩ := List.exists_cons_of_ne_nil h.ne
  rw [Service.addItem, hbare]

theorem addItem_environment (h : IsItem item) (s : Service) :
    s.addItem .environment item = { s with envVars := s.envVars ++ [Service.envVarOf item] } := by
  have hbare : unquote (dropComment item) = item := h.read false
  obtain ⟨c, cs, rfl⟩ := List.exists_cons_of_ne_nil h.ne
  rw [Service.addItem, hbare]

/-- A character of a name, or of a port, stands for nothing but itself. -/
theorem plain_of_isNameChar {c : Char} (h : isNameChar c = true ∨ c = ':' ∨ c = '/') :
    isBlank c = false ∧ isQuote c = false ∧ c ≠ '#' ∧ c ≠ ',' := by
  have hother : ∀ d ∈ ['"', '\'', '#', ','], c ≠ d := by
    rintro d hd rfl
    revert h
    revert c
    decide
  have hvisible : isBlank c = false := by
    simp only [isNameChar, Bool.or_eq_true, decide_eq_true_eq] at h
    rcases h with ((hword | rfl) | rfl) | rfl | rfl
    · exact isBlank_of_isWord hword
    all_goals decide
  have hquote : isQuote c = false := by simp [isQuote, hother '"' (by simp), hother '\'' (by simp)]
  exact ⟨hvisible, hquote, hother '#' (by simp), hother ',' (by simp)⟩

theorem isItem_of_plain (hne : item ≠ []) (h : ∀ c ∈ item, isBlank c = false ∧ isQuote c = false ∧ c ≠ '#' ∧ c ≠ ',') :
    IsItem item ∧ ',' ∉ item :=
  ⟨⟨hne, trim_of_visible fun c hc => (h c hc).1, fun c hc => (h c hc).2.1, fun hc => (h _ hc).2.2.1 rfl⟩,
    fun hc => (h _ hc).2.2.2 rfl⟩

theorem isItem_of_isName (h : IsName item) : IsItem item ∧ ',' ∉ item := by
  cases item with
  | nil => exact h.elim
  | cons c cs =>
    refine isItem_of_plain (List.cons_ne_nil c cs) (List.forall_mem_cons.2 ⟨?_, fun d hd => ?_⟩)
    · exact plain_of_isNameChar (.inl (by simp [isNameChar, h.1]))
    · exact plain_of_isNameChar (.inl (h.2 d hd))

theorem isItem_of_isPort (h : IsPort item) : IsItem item ∧ ',' ∉ item := by
  refine isItem_of_plain h.1 fun c hc => plain_of_isNameChar ?_
  have hport := h.2 c hc
  simp only [isPortChar, Bool.or_eq_true, List.contains_iff_mem, List.mem_cons, List.not_mem_nil, or_false] at hport
  rcases hport with hword | rfl | rfl | rfl | rfl
  · exact .inl (by simp [isNameChar, isWord_of_isAlphanum hword])
  all_goals decide

theorem IsBare.not_isQuote (h : IsBare v) : ∀ c ∈ v.value.toList, isQuote c = false := by
  intro c hc
  have hdouble : c ≠ '"' := fun heq => h.value_unquoted (heq ▸ hc)
  have hsingle : c ≠ '\'' := fun heq => h.value_single (heq ▸ hc)
  simp [isQuote, hdouble, hsingle]

theorem isItem_variableItem (h : IsBare v) : IsItem (variableItem v) := by
  have hkey : ∀ c ∈ v.key.toList, isBlank c = false ∧ isQuote c = false ∧ c ≠ '#' ∧ c ≠ ',' := fun c hc =>
    plain_of_isNameChar (.inl (by simp [isNameChar, h.key_word c hc]))
  refine ⟨by simp [variableItem], trim_eq_self_iff.2 ⟨?_, ?_⟩, fun c hc => ?_, fun hsign => ?_⟩
  · exact stops_append h.key_toList_ne h.visible_key _
  · rw [variableItem, List.reverse_append, List.reverse_cons, List.append_assoc]
    -- the equals sign is last if the value is empty
    exact stops_append_right (trim_eq_self_iff.1 h.value_trim).2 (stops_cons.2 (by decide))
  · rcases List.mem_append.1 hc with hc | hc
    · exact (hkey c hc).2.1
    · rcases List.mem_cons.1 hc with rfl | hc
      · decide
      · exact h.not_isQuote c hc
  · rcases List.mem_append.1 hsign with hc | hc
    · exact (hkey _ hc).2.2.1 rfl
    · rcases List.mem_cons.1 hc with hc | hc
      · exact absurd hc (by decide)
      · exact h.value_sign hc

end Items

/-! ## Lists between square brackets -/

section Inline

variable {items : List (List Char)} {value : List Char}

theorem unquote_cons {b : Char} (hb : isBlank b = true) (cs : List Char) : unquote (b :: cs) = unquote cs := by
  rw [unquote, trim_cons_of_isBlank hb, unquote]

/-- Blanks after the commas belong to the items. -/
theorem intercalate_comma (item : List Char) (items : List (List Char)) :
    [',', ' '].intercalate (item :: items) = [','].intercalate (item :: items.map (' ' :: ·)) := by
  induction items generalizing item with
  | nil => simp
  | cons next items ih =>
    have hblank : ∀ rest, [','].intercalate ((' ' :: next) :: rest) = ' ' :: [','].intercalate (next :: rest) := by
      intro rest
      by_cases hrest : rest = []
      · simp [hrest]
      · simp [List.intercalate_cons_of_ne_nil hrest]
    rw [List.intercalate_cons_of_ne_nil (List.cons_ne_nil _ _), ih, List.map_cons,
      List.intercalate_cons_of_ne_nil (List.cons_ne_nil _ _), hblank]
    simp

/-- What stands between the brackets is found again. -/
theorem inlineList?_inlineText (h : ∀ item ∈ items, trim item ≠ [] ∧ ',' ∉ item) :
    inlineList? ('[' :: ([',', ' '].intercalate items ++ [']'])) = some (items.map unquote) := by
  have hbrackets : inlineList? ('[' :: ([',', ' '].intercalate items ++ [']'])) =
      some (((splitAll (· = ',') ([',', ' '].intercalate items)).filter fun item => trim item ≠ []).map unquote) := by
    rw [inlineList?, trim_of_ends (by decide) (by decide)]
    simp
  rw [hbrackets]
  cases items with
  | nil => rfl -- one blank piece, which is left out
  | cons item items =>
    have hsplit : splitAll (· = ',') ([',', ' '].intercalate (item :: items)) = item :: items.map (' ' :: ·) := by
      have hcomma : ∀ w ∈ item :: items, ∀ c ∈ w, decide (c = ',') = false := fun w hw c hc =>
        decide_eq_false fun heq => (h w hw).2 (heq ▸ hc)
      have hblank : decide (' ' = ',') = false := by decide
      rw [intercalate_comma]
      refine splitAll_intercalate (by decide) (List.cons_ne_nil _ _) (List.forall_mem_cons.2 ⟨?_, ?_⟩)
      · exact hcomma item List.mem_cons_self
      · refine List.forall_mem_map.2 fun w hw => List.forall_mem_cons.2 ⟨hblank, ?_⟩
        exact hcomma w (List.mem_cons_of_mem item hw)
    have hkept : ∀ w ∈ item :: items.map (' ' :: ·), decide (trim w ≠ []) = true := by
      refine List.forall_mem_cons.2 ⟨by simpa using (h item List.mem_cons_self).1, List.forall_mem_map.2 fun w hw => ?_⟩
      rw [trim_cons_of_isBlank isBlank_space]
      simpa using (h w (List.mem_cons_of_mem item hw)).1
    have hunquote : unquote ∘ (' ' :: ·) = unquote := funext fun w => unquote_cons isBlank_space w
    rw [hsplit, List.filter_eq_self.2 hkept, List.map_cons, List.map_map, hunquote, List.map_cons]

end Inline

/-! ## Lines of a section -/

namespace Open

variable {o : Open} {s : Service} {sec : Section} {within : Option (Section × Nat)} {value : List Char}

/-- The line of a section is a key of the service if the open section is not indented less. -/
theorem readLine_sectionLine (hwithin : ∀ w ∈ o.within, 4 ≤ w.2) (sec : Section) (value : List Char) :
    o.readLine (sectionLine sec value) = o.setKey 4 sec.key.toList (trim (dropComment (trimLeft (trimRight value)))) := by
  obtain ⟨c, key, hkey, hc, hall⟩ : ∃ c key, sec.key.toList = c :: key ∧ isWord c = true ∧
      ∀ d ∈ key, isNameChar d = true := by
    cases sec <;> exact ⟨_, _, rfl, by decide, by decide⟩
  rw [sectionLine, hkey, readLine_entry (isBlank_spaces _) hc hall]
  cases hw : o.within with
  | none => rfl
  | some w =>
    have hindent := hwithin w (by simp [hw])
    exact if_neg (Nat.not_lt.2 hindent)

theorem setKey_inline {items : List (List Char)} (h : inlineList? value = some items) :
    o.setKey 4 sec.key.toList value = ⟨items.foldl (fun s item => s.addItem sec item) o.service, none⟩ := by
  have himage : ¬ sec.key = "image" := by cases sec <;> decide
  simp only [setKey, String.ofList_toList, if_neg himage, Section.ofKey?_key, h]

theorem setKey_nil (o : Open) (sec : Section) : o.setKey 4 sec.key.toList [] = ⟨o.service, some (sec, 4)⟩ := by
  have himage : ¬ sec.key = "image" := by cases sec <;> decide
  simp only [setKey, String.ofList_toList, if_neg himage, Section.ofKey?_key, show inlineList? [] = none by rfl, if_true]

/-- Lines that each add something, while the section stays open. -/
theorem foldl_flatMap_readLine {α : Type} {add : Service → α → Service} {lines : α → List Line} {as : List α}
    (h : ∀ a ∈ as, ∀ s, (lines a).foldl readLine ⟨s, within⟩ = ⟨add s a, within⟩) (s : Service) :
    (as.flatMap lines).foldl readLine ⟨s, within⟩ = ⟨as.foldl add s, within⟩ := by
  induction as generalizing s with
  | nil => rfl
  | cons a as ih =>
    rw [List.flatMap_cons, List.foldl_append, h a List.mem_cons_self, List.foldl_cons]
    exact ih (fun a ha => h a (List.mem_cons_of_mem _ ha)) _

theorem readLine_itemLine {raw : List Char} (h : trim raw = raw) (s : Service) (sec : Section) :
    readLine ⟨s, some (sec, 4)⟩ (itemLine raw) = ⟨s.addItem sec raw, some (sec, 4)⟩ := by
  rw [itemLine, readLine_item (isBlank_spaces 6), trimLeft_trimRight_cons isBlank_space h]

/-- What is not blank is a value, even if a comment follows. -/
theorem value_ne_nil {cs : List Char} (h : trim cs ≠ []) :
    trim (dropComment (trimLeft (trimRight (' ' :: cs)))) ≠ [] := by
  obtain ⟨blanks, c, rest, rfl, hblanks, hc⟩ := exists_visible h
  have hmargin : ∀ b ∈ ' ' :: blanks, isBlank b = true := List.forall_mem_cons.2 ⟨isBlank_space, hblanks⟩
  have hkept : trimLeft (trimRight (' ' :: (blanks ++ c :: rest))) = [c] ++ trimRight rest := by
    rw [← List.cons_append, trimRight_append_cons hc, trimLeft_append hmargin, trimLeft_cons hc]
    rfl
  rw [hkept, dropComment_append_of_not_isBlank (by simpa using hc), List.singleton_append, trim_cons hc]
  exact List.cons_ne_nil _ _

/-- A dependency is added with its own line, and not with the details below it. -/
theorem foldl_needLines {need : List Char × List Char} (hname : IsName need.1) (hcondition : trim need.2 ≠ [])
    (s : Service) : (needLines need).foldl readLine ⟨s, some (.dependsOn, 4)⟩ =
      ⟨s.addItem .dependsOn need.1, some (.dependsOn, 4)⟩ := by
  obtain ⟨name, condition⟩ := need
  have hitem := (isItem_of_isName hname).1
  match name, hname with
  | c :: name, ⟨hc, hall⟩ =>
    have hword : "condition".toList = 'c' :: "ondition".toList := by decide
    have hadded : readLine ⟨s, some (.dependsOn, 4)⟩ (spaces 6 ++ (c :: name ++ [':'])) =
        ⟨s.addItem .dependsOn (c :: name), some (.dependsOn, 4)⟩ := by
      rw [readLine_entry (isBlank_spaces _) hc hall, addItem_dependsOn hitem]
      rfl
    have hdetail : ∀ s, readLine ⟨s, some (.dependsOn, 4)⟩
        (spaces 8 ++ ('c' :: "ondition".toList ++ ':' :: ' ' :: condition)) = ⟨s, some (.dependsOn, 4)⟩ := by
      intro s
      rw [readLine_entry (isBlank_spaces 8) (by decide) (by decide)]
      exact congrArg (fun s => (⟨s, some (.dependsOn, 4)⟩ : Open)) (if_neg (value_ne_nil hcondition))
    rw [needLines, hword, List.foldl_cons, List.foldl_cons, List.foldl_nil, hadded, hdetail]

/-- A value is what follows the equals sign in an item. -/
theorem readLine_entryLine {v : EnvVar} (h : IsBare v) (s : Service) :
    readLine ⟨s, some (.environment, 4)⟩ (entryLine v) =
      ⟨s.addItem .environment (variableItem v), some (.environment, 4)⟩ := by
  have hequals : '=' ∉ v.key.toList := h.not_mem_key (by decide)
  have hitem : Service.envVarOf (variableItem v) = v := by
    rw [Service.envVarOf, variableItem, cut_append_cons hequals]
    simp [trim_of_visible h.visible_key, h.value_trim]
  have hvalue : unquote (trim (dropComment (trimLeft (trimRight (' ' :: v.value.toList))))) = v.value.toList := by
    rw [trimLeft_trimRight_cons isBlank_space h.value_trim, dropComment_eq_self (hasComment_of_not_mem h.value_sign),
      h.value_trim]
    cases hcs : v.value.toList with
    | nil => rfl
    | cons c cs => exact unquote_of_not_isQuote (h.not_isQuote c (hcs ▸ List.mem_cons_self)) (hcs ▸ h.value_trim)
  rw [entryLine, readLine_variable h.toIsQuotable (isBlank_spaces 6) (by decide), hvalue, String.ofList_toList,
    addItem_environment (isItem_variableItem h), hitem]

/-! ## Sections -/

section Forms

variable {items : List (List Char × Bool)}

/-- A list in the line of its section. -/
theorem readLine_inline (hitems : ∀ item ∈ items, IsItem item.1 ∧ ',' ∉ item.1) (hwithin : ∀ w ∈ o.within, 4 ≤ w.2)
    (sec : Section) : o.readLine (sectionLine sec (inlineText (items.map spelled))) =
      ⟨(items.map Prod.fst).foldl (fun s item => s.addItem sec item) o.service, none⟩ := by
  have hends : isBlank '[' = false ∧ isBlank ']' = false := by decide
  have htrim := trim_of_ends hends.1 hends.2 ([',', ' '].intercalate (items.map spelled))
  have hsign : '#' ∉ '[' :: ([',', ' '].intercalate (items.map spelled) ++ [']']) := by
    have hinner : '#' ∉ [',', ' '].intercalate (items.map spelled) := by
      intro hmem
      rcases List.mem_of_mem_intercalate hmem with hmem | ⟨raw, hraw, hmem⟩
      · exact absurd hmem (by decide)
      · obtain ⟨item, hitem, rfl⟩ := List.mem_map.1 hraw
        exact not_mem_spelled (by decide) (hitems item hitem).1.sign item.2 hmem
    simpa using hinner
  have hspelled : ∀ raw ∈ items.map spelled, trim raw ≠ [] ∧ ',' ∉ raw := by
    refine List.forall_mem_map.2 fun (item, quoted) hitem => ?_
    obtain ⟨hitem, hcomma⟩ := hitems _ hitem
    refine ⟨?_, not_mem_spelled (by decide) hcomma quoted⟩
    rw [hitem.trim_spelled]
    exact hitem.spelled_ne quoted
  have hunquote : (items.map spelled).map unquote = items.map Prod.fst := by
    rw [List.map_map]
    exact List.map_congr_left fun item hitem => (hitems item hitem).1.unquote_spelled item.2
  rw [readLine_sectionLine hwithin, inlineText, trimLeft_trimRight_cons isBlank_space htrim,
    dropComment_eq_self (hasComment_of_not_mem hsign), htrim, setKey_inline (inlineList?_inlineText hspelled), hunquote]

/-- Lines below that of their section, which stays open. -/
theorem foldl_sectionLine (hwithin : ∀ w ∈ o.within, 4 ≤ w.2) (sec : Section) (ls : List Line) :
    (sectionLine sec [] :: ls).foldl readLine o = ls.foldl readLine ⟨o.service, some (sec, 4)⟩ := by
  have hvalue : trim (dropComment (trimLeft (trimRight []))) = [] := rfl
  rw [List.foldl_cons, readLine_sectionLine hwithin, hvalue, setKey_nil]

theorem foldl_itemLines (hitems : ∀ item ∈ items, IsItem item.1) (s : Service) (sec : Section) :
    ((items.map spelled).map itemLine).foldl readLine ⟨s, some (sec, 4)⟩ =
      ⟨(items.map Prod.fst).foldl (fun s item => s.addItem sec item) s, some (sec, 4)⟩ := by
  have hlines : (items.map spelled).map itemLine = items.flatMap fun item => [itemLine (spelled item)] := by
    rw [List.map_map, List.map_eq_flatMap]
    rfl
  rw [hlines, List.foldl_map]
  refine foldl_flatMap_readLine (fun item hitem s => ?_) s
  have hitem := hitems item hitem
  rw [List.foldl_cons, List.foldl_nil, readLine_itemLine (hitem.trim_spelled item.2),
    addItem_spelled hitem item.2]

end Forms

end Open

/-- What is open after a section. -/
def Form.within (sec : Section) : Form → Option (Section × Nat)
  | inline => none
  | _ => some (sec, 4)

theorem Form.within_eq (sec : Section) (f : Form) : f.within sec = if f = inline then none else some (sec, 4) := by
  cases f <;> rfl

/-- Every spelling makes the same service. -/
theorem foldl_spelled {c : Contents} {f : Form} {ls : List Line} {o : Open} (h : Spells c f ls) (hc : c.IsPlain)
    (hwithin : ∀ w ∈ o.within, 4 ≤ w.2) : ls.foldl Open.readLine o = ⟨c.addTo o.service, f.within c.sec⟩ := by
  cases h with
  | inlineNeeds names =>
    have hitems : ∀ item ∈ names.map (·, false), IsItem item.1 ∧ ',' ∉ item.1 :=
      List.forall_mem_map.2 fun name hname => isItem_of_isName (hc name hname)
    have hline := Open.readLine_inline hitems hwithin .dependsOn
    rw [map_spelled_bare, map_fst_bare] at hline
    rw [List.foldl_cons, List.foldl_nil, hline]
    rfl
  | itemNeeds names =>
    have hitems : ∀ item ∈ names.map (·, false), IsItem item.1 :=
      List.forall_mem_map.2 fun name hname => (isItem_of_isName (hc name hname)).1
    have hlines := Open.foldl_itemLines hitems o.service .dependsOn
    rw [map_spelled_bare, map_fst_bare] at hlines
    exact (Open.foldl_sectionLine hwithin .dependsOn _).trans hlines
  | entryNeeds needs hconditions =>
    have hneed : ∀ need ∈ needs, ∀ s, (needLines need).foldl Open.readLine ⟨s, some (.dependsOn, 4)⟩ =
        ⟨s.addItem .dependsOn need.1, some (.dependsOn, 4)⟩ := fun need hneed =>
      Open.foldl_needLines (hc need.1 (List.mem_map_of_mem hneed)) (hconditions need hneed)
    rw [Open.foldl_sectionLine hwithin, Open.foldl_flatMap_readLine hneed, Contents.addTo, Contents.items,
      List.foldl_map]
    rfl
  | itemVariables vs =>
    have hitems : ∀ item ∈ (vs.map variableItem).map (·, false), IsItem item.1 :=
      List.forall_mem_map.2 (List.forall_mem_map.2 fun v hv => isItem_variableItem (hc v hv))
    have hlines := Open.foldl_itemLines hitems o.service .environment
    rw [map_spelled_bare, map_fst_bare] at hlines
    exact (Open.foldl_sectionLine hwithin .environment _).trans hlines
  | entryVariables vs =>
    have hentry : ∀ v ∈ vs, ∀ s, [entryLine v].foldl Open.readLine ⟨s, some (.environment, 4)⟩ =
        ⟨s.addItem .environment (variableItem v), some (.environment, 4)⟩ := by
      intro v hv s
      rw [List.foldl_cons, List.foldl_nil, Open.readLine_entryLine (hc v hv)]
    rw [Open.foldl_sectionLine hwithin, List.map_eq_flatMap, Open.foldl_flatMap_readLine hentry, Contents.addTo,
      Contents.items, List.foldl_map]
    rfl
  | inlinePorts ports =>
    have hitems : ∀ item ∈ ports, IsItem item.1 ∧ ',' ∉ item.1 := fun item hitem =>
      isItem_of_isPort (hc item.1 (List.mem_map_of_mem hitem))
    rw [List.foldl_cons, List.foldl_nil, Open.readLine_inline hitems hwithin]
    rfl
  | itemPorts ports =>
    have hitems : ∀ item ∈ ports, IsItem item.1 := fun item hitem =>
      (isItem_of_isPort (hc item.1 (List.mem_map_of_mem hitem))).1
    exact (Open.foldl_sectionLine hwithin .ports _).trans (Open.foldl_itemLines hitems o.service .ports)

/-! ## What comes before a section and after it -/

/-- A line of a service is blank, a comment, or indented by four blanks. -/
def IsIndented (l : Line) : Prop :=
  isIdle (trimRight l) = true ∨ spaces 4 <+: l

instance (l : Line) : Decidable (IsIndented l) :=
  inferInstanceAs (Decidable (_ ∨ _))

theorem IsIndented.isInner {l : Line} (h : IsIndented l) : IsInner l := by
  rcases h with hidle | ⟨rest, rfl⟩
  · exact .inl hidle
  · exact isInner_append (isBlank_spaces 4) (by decide) rest

theorem Spells.isIndented {c : Contents} {f : Form} {ls : List Line} (h : Spells c f ls) : ∀ l ∈ ls, IsIndented l := by
  have hsection (sec : Section) (value : List Char) : IsIndented (sectionLine sec value) :=
    .inr (List.prefix_append _ _)
  have hdeeper {margin : List Char} (hmargin : spaces 4 <+: margin) (cs : List Char) : IsIndented (margin ++ cs) :=
    .inr (hmargin.trans (List.prefix_append _ _))
  cases h with
  | inlineNeeds => simpa using hsection _ _
  | itemNeeds names =>
    exact List.forall_mem_cons.2 ⟨hsection _ _, List.forall_mem_map.2 fun _ _ => hdeeper (by decide) _⟩
  | entryNeeds needs =>
    refine List.forall_mem_cons.2 ⟨hsection _ _, List.forall_mem_flatMap.2 fun need _ => ?_⟩
    exact List.forall_mem_cons.2 ⟨hdeeper (by decide) _, List.forall_mem_singleton.2 (hdeeper (by decide) _)⟩
  | itemVariables vs =>
    exact List.forall_mem_cons.2 ⟨hsection _ _, List.forall_mem_map.2 fun _ _ => hdeeper (by decide) _⟩
  | entryVariables vs =>
    exact List.forall_mem_cons.2 ⟨hsection _ _, List.forall_mem_map.2 fun _ _ => hdeeper (by decide) _⟩
  | inlinePorts => simpa using hsection _ _
  | itemPorts ports =>
    exact List.forall_mem_cons.2 ⟨hsection _ _, List.forall_mem_map.2 fun _ _ => hdeeper (by decide) _⟩

theorem length_le_indent {margin cs key value : List Char} {indent : Nat} (hmargin : ∀ c ∈ margin, isBlank c = true)
    (h : Content.ofLine (margin ++ cs) = .entry indent key value) : margin.length ≤ indent := by
  have hdrop : (margin ++ cs).dropWhile isBlank = cs.dropWhile isBlank := List.dropWhile_append_of_pos hmargin
  have hlength := (List.dropWhile_sublist (p := isBlank) (l := cs)).length_le
  rw [Content.ofLine, hdrop] at h
  split at h
  · cases h
  · dsimp only at h
    split at h
    · injection h with hindent
      rw [← hindent, List.length_append]
      omega
    · cases h

namespace Open

variable {n : Nat}

theorem within_setKey (o : Open) (indent : Nat) (key value : List Char) :
    ∀ w ∈ (o.setKey indent key value).within, w.2 = indent := by
  rw [setKey]
  split
  · simp
  · split
    · simp
    · split_ifs <;> simp
    · simp

theorem within_step {o : Open} {l : Line}
    (hl : ∀ indent key value, Content.ofLine l = .entry indent key value → n ≤ indent)
    (ho : ∀ w ∈ o.within, n ≤ w.2) : ∀ w ∈ (o.step l).within, n ≤ w.2 := by
  rw [step]
  split
  · exact ho
  · rename_i indent key value sec outer hentry hwithin
    split_ifs
    · exact ho
    · exact fun w hw => (hl indent key value hentry).trans_eq (within_setKey o indent key value w hw).symm
  · rename_i indent key value hentry hwithin
    exact fun w hw => (hl indent key value hentry).trans_eq (within_setKey o indent key value w hw).symm
  · exact ho

end Open

/-- Sections of a service with four blanks in front of its lines are indented by these. -/
theorem Place.within_opened (p : Place) {before : List Line} (h : ∀ l ∈ before, IsIndented l) :
    ∀ w ∈ (p.opened before).within, 4 ≤ w.2 := by
  rw [opened, Open.foldl_seen]
  refine List.foldlRecOn (motive := fun o : Open => ∀ w ∈ o.within, 4 ≤ w.2) _ _ (by simp) fun o ho l hl => ?_
  rw [Open.readLine]
  split_ifs with hidle
  · exact ho
  · -- a key of this line is behind the four blanks
    obtain ⟨rest, rfl⟩ := (h l hl).resolve_left hidle
    have hkept : trimRight rest ≠ [] := fun hblank => hidle (isIdle_of_trimRight_eq_nil (isBlank_spaces 4) hblank)
    rw [trimRight_append hkept]
    exact Open.within_step (fun indent key value hentry => length_le_indent (isBlank_spaces 4) hentry) ho

/-- The first line that holds an item or an entry is a key that is indented no more than that of the section. -/
def closes (outer : Nat) : List Line → Bool
  | [] => true
  | l :: ls =>
    match Content.ofLine l with
    | .item _ => false
    | .entry indent _ _ => indent ≤ outer
    | .other => closes outer ls

/-- Whether a section is open is forgotten when it is closed. -/
theorem foldl_closed {outer : Nat} {ls : List Line} (h : closes outer ls = true) (s : Service) (sec : Section) :
    (ls.foldl Open.step ⟨s, some (sec, outer)⟩).service = (ls.foldl Open.step ⟨s, none⟩).service := by
  induction ls with
  | nil => rfl
  | cons l ls ih =>
    rw [closes] at h
    rw [List.foldl_cons, List.foldl_cons]
    cases hcontent : Content.ofLine l with
    | item raw => simp [hcontent] at h
    | entry indent key value =>
      have hindent : ¬ outer < indent := by simpa [hcontent] using h
      simp only [Open.step, hcontent, if_neg hindent]
      rfl
    | other =>
      simp only [Open.step, hcontent]
      exact ih (by simpa [hcontent] using h)

/-- Spellings of a section make no difference if both leave the section open, or neither does. Otherwise, what
follows must close it: an item, or a line that is indented more than the key, before the next key that can be read
would be taken into the one and not into the other. -/
theorem read_respelled {c : Contents} {f f' : Form} {p : Place} {before ls ls' : List Line} {text text' : String}
    (h : Spells c f ls) (h' : Spells c f' ls') (hc : c.IsPlain) (hbefore : ∀ l ∈ before, IsIndented l)
    (hafter : (f = .inline ↔ f' = .inline) ∨ closes 4 p.tail = true)
    (htext : Text.lines text.toList = p.lines (before ++ ls))
    (htext' : Text.lines text'.toList = p.lines (before ++ ls')) (r : Registry) (reserved : List String)
    (fileName : String) :
    Format.compose.read r reserved fileName text' = Format.compose.read r reserved fileName text := by
  have hwithin := p.within_opened hbefore
  have hopened {f : Form} {ls : List Line} (h : Spells c f ls) :
      p.opened (before ++ ls) = ⟨c.addTo (p.opened before).service, f.within c.sec⟩ := by
    calc p.opened (before ++ ls)
        = ls.foldl Open.readLine (p.opened before) := by
          rw [Place.opened, seen_append, List.foldl_append, Open.foldl_seen _ ls, Place.opened]
      _ = ⟨c.addTo (p.opened before).service, f.within c.sec⟩ := foldl_spelled h hc hwithin
  have hbody {f : Form} {ls : List Line} (h : Spells c f ls) : ∀ l ∈ before ++ ls, IsInner l :=
    List.forall_mem_append.2 ⟨fun l hl => (hbefore l hl).isInner, fun l hl => (h.isIndented l hl).isInner⟩
  have hfinished : p.finished ⟨c.addTo (p.opened before).service, f'.within c.sec⟩ =
      p.finished ⟨c.addTo (p.opened before).service, f.within c.sec⟩ := by
    -- the services agree, so that only the section that is open can make a difference
    rcases hafter with hforms | hcloses
    · rw [Form.within_eq, Form.within_eq, if_congr hforms rfl rfl]
    · have hnone (f : Form) (s : Service) : p.finished ⟨s, f.within c.sec⟩ = p.finished ⟨s, none⟩ := by
        cases f with
        | inline => rfl
        | _ => exact foldl_closed hcloses s c.sec
      rw [hnone, hnone]
  refine read_congr ?_
  rw [p.services_eq (hbody h) htext, p.services_eq (hbody h') htext', hopened h, hopened h', hfinished]

/-- A service that waits for two others, before its environment. -/
def waitingPlace : Place :=
  { apiPlace with rest := ["# settings".toList, "    environment:".toList, "      - A=b".toList] }

def waitingText (needs : String) : String :=
  "services:\n  api:\n    image: redis\n" ++ needs ++ "# settings\n    environment:\n      - A=b\n"

theorem waiting_respelled : Format.compose.read .standard [] "" (waitingText
      "    depends_on:\n      db:\n        condition: service_healthy\n      my.cache-1:\n        condition: x # soon\n") =
    Format.compose.read .standard [] "" (waitingText "    depends_on: [db, my.cache-1]\n") := by
  have hinline := Spells.inlineNeeds ["db".toList, "my.cache-1".toList]
  have hentries := Spells.entryNeeds [("db".toList, "service_healthy".toList), ("my.cache-1".toList, "x # soon".toList)]
    (by decide)
  have hbefore : ∀ l ∈ ["    image: redis".toList], IsIndented l := by decide +kernel
  exact read_respelled (p := waitingPlace) hinline hentries (by decide) hbefore (.inr (by decide +kernel))
    (by decide +kernel) (by decide +kernel) .standard [] ""

/-- A service with profiles, under a key in quotes. -/
def profiledText (needs : String) : String :=
  "services:\n  db:\n    image: postgres\n  cache:\n    image: redis\n  api:\n" ++ needs ++
    "    \"profiles\":\n      - cache\n"

/-- A key in quotes does not close a section. What is below it is needed as well. -/
theorem profiles_noticed : Spells (.dependsOn ["db".toList]) .inline ["    depends_on: [db]".toList] ∧
    Spells (.dependsOn ["db".toList]) .items ["    depends_on:".toList, "      - db".toList] ∧
    (Sketch.ofCompose .standard (profiledText "    depends_on: [db]\n")).links = [(0, 2)] ∧
    (Sketch.ofCompose .standard (profiledText "    depends_on:\n      - db\n")).links = [(0, 2), (1, 2)] ∧
    Format.compose.read .standard [] "" (profiledText "    depends_on:\n      - db\n") ≠
      Format.compose.read .standard [] "" (profiledText "    depends_on: [db]\n") := by
  have hinline : (Sketch.ofCompose .standard (profiledText "    depends_on: [db]\n")).links = [(0, 2)] := by
    decide +kernel
  have hitems : (Sketch.ofCompose .standard (profiledText "    depends_on:\n      - db\n")).links = [(0, 2), (1, 2)] := by
    decide +kernel
  refine ⟨.inlineNeeds ["db".toList], .itemNeeds ["db".toList], hinline, hitems, fun hsame => ?_⟩
  rw [Format.read_eq rfl, Format.read_eq rfl] at hsame
  have hconnections := congrArg (fun found : Imported => found.topology.connections.length) (Except.ok.inj hsame)
  simp [Sketch.imported, hinline, hitems] at hconnections

end Compose
end HostTopology
