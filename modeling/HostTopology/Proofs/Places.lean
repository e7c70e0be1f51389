import HostTopology.Proofs.Blocks
import HostTopology.Proofs.Dependencies
import HostTopology.Proofs.Insertion

/-!
# Places — lines of a service that can be exchanged for others

What a compose file says about a service is made of the lines of this service only, one after the other:

* `Place` — a file without the first lines of a service; `services_eq` — what it says with some lines put in;
* `ofLine_item`, `ofLine_entry` — what single lines hold;
* `Open.readLines` — a service after lines of a file, with the section that is open;
* `Service.foldl_withVariables` — what lines add does not depend on the variables that are there;
* `read_congr`, `read_insertVariables` — services that are equal, or differ in variables of one of them.
-/

namespace HostTopology

namespace Compose

open Text

/-! ## Blocks of a file -/

/-- Services are looked for below `services:`, up to the next line that is not indented. -/
def isUnder (wasUnder : Bool) (ls : List Line) : Bool :=
  ls.foldl (fun under l => if isTop l then trim l = "services:".toList else under) wasUnder

/-- A line that is no part of a block is where the blocks before it end. -/
theorem takeWhile_isBody_append {xs ys : List Line} (h : ∀ l ∈ ys.head?, isBody l = false) :
    (xs ++ ys).takeWhile isBody = xs.takeWhile isBody := by
  have hnone : ys.takeWhile isBody = [] := by
    cases ys with
    | nil => rfl
    | cons l ys => exact List.takeWhile_cons_of_neg (by simp [h l rfl])
  rw [List.takeWhile_append, hnone, List.append_nil]
  split
  · rename_i hall
    exact ((List.takeWhile_prefix isBody).eq_of_length hall).symm
  · rfl

theorem blocksFrom_append_of_head? {xs ys : List Line} (h : ∀ l ∈ ys.head?, isBody l = false) (under : Bool) :
    blocksFrom under (xs ++ ys) = blocksFrom under xs ++ blocksFrom (isUnder under xs) ys := by
  -- the lines before are gone through one by one, as they are when services are looked for
  induction xs generalizing under with
  | nil => cases under <;> rfl
  | cons l xs ih =>
    rw [isUnder, List.foldl_cons, ← isUnder, List.cons_append, blocksFrom_cons, blocksFrom_cons,
      takeWhile_isBody_append h, ih, ih]
    split_ifs
    · rfl
    all_goals rw [List.append_assoc]

/-! ## Lines that are exchanged -/

/-- A line that is passed over, or that belongs to the service that it is written in. -/
def IsInner (l : Line) : Prop :=
  isIdle (trimRight l) = true ∨ isBody (trimRight l) = true

instance (l : Line) : Decidable (IsInner l) :=
  inferInstanceAs (Decidable (_ ∨ _))

/-- The lines before a service and that of its name, and the lines that follow some others. -/
structure Place where
  front : List Line
  name : String
  head : Line
  rest : List Line
  names : serviceName? (trimRight head) = some name
  under : isUnder false (seen front) = true

namespace Place

variable (p : Place)

/-- The file with lines put in. -/
def lines (body : List Line) : List Line :=
  p.front ++ p.head :: (body ++ p.rest)

/-- The lines of the service that follow. -/
def tail : List Line :=
  (seen p.rest).takeWhile isBody

/-- The services before this one, and those after it. -/
def earlier : List Service :=
  (blocksFrom false (seen p.front)).map Block.service

def later : List Service :=
  (blocksFrom true (seen p.rest)).map Block.service

/-- The service after some of its lines. -/
def opened (body : List Line) : Open :=
  (seen body).foldl Open.step ⟨.named p.name, none⟩

/-- The service when the lines that follow have been read as well. -/
def finished (o : Open) : Service :=
  (p.tail.foldl Open.step o).service

/-- Lines of a service do not matter to the others. -/
theorem services_eq {text : String} {body : List Line} (hbody : ∀ l ∈ body, IsInner l)
    (htext : Text.lines text.toList = p.lines body) :
    services text = p.earlier ++ p.finished (p.opened body) :: p.later := by
  have hinner : ∀ l ∈ seen body, isBody l = true := fun l hl => isBody_of_mem_seen hbody hl
  have hidle : isIdle (trimRight p.head) = false := isIdle_of_serviceName? p.names
  have hhead : ∀ l ∈ (trimRight p.head :: (seen body ++ seen p.rest)).head?, isBody l = false := by
    simpa using isBody_of_serviceName? p.names
  have hseen : seen (p.lines body) = seen p.front ++ trimRight p.head :: (seen body ++ seen p.rest) := by
    rw [lines, seen_append, seen_cons hidle, seen_append]
  have hblocks : blocks text.toList = blocksFrom false (seen p.front) ++
      ⟨p.name, seen body ++ p.tail⟩ :: blocksFrom true (seen p.rest) := by
    calc blocks text.toList
        = blocksFrom false (seen p.front ++ trimRight p.head :: (seen body ++ seen p.rest)) := by
          rw [← hseen, ← htext]
          rfl
      _ = blocksFrom false (seen p.front) ++ blocksFrom true (trimRight p.head :: (seen body ++ seen p.rest)) := by
          rw [blocksFrom_append_of_head? hhead, p.under]
      _ = blocksFrom false (seen p.front) ++ ⟨p.name, (seen body ++ seen p.rest).takeWhile isBody⟩ ::
            blocksFrom true (seen body ++ seen p.rest) := by
          rw [blocksFrom_cons_of_serviceName? p.names]
      _ = blocksFrom false (seen p.front) ++ ⟨p.name, seen body ++ p.tail⟩ :: blocksFrom true (seen p.rest) := by
          -- the lines that are put in belong to this service, and are passed over after it
          rw [List.takeWhile_append_of_pos hinner, blocksFrom_append hinner]
          rfl
  rw [services_eq_blocks, hblocks, List.map_append, List.map_cons, Block.service, List.foldl_append]
  rfl

end Place

/-! ## Single lines -/

section Lines

variable {margin key raw value : List Char} {c : Char}

theorem ofLine_item (hmargin : ∀ c ∈ margin, isBlank c = true) (raw : List Char) :
    Content.ofLine (margin ++ '-' :: raw) = .item (trimLeft raw) := by
  have hdash : (margin ++ '-' :: raw).dropWhile isBlank = '-' :: raw :=
    dropWhile_append_of_stops hmargin (stops_cons.2 (by decide))
  rw [Content.ofLine, hdash]
  rfl

/-- A key that begins with a character of words, and a value after the colon. -/
theorem ofLine_entry (hmargin : ∀ c ∈ margin, isBlank c = true) (hc : isWord c = true)
    (hkey : ∀ d ∈ key, isNameChar d = true) (value : List Char) :
    Content.ofLine (margin ++ (c :: key ++ ':' :: value)) =
      .entry margin.length (c :: key) (trim (dropComment (trimLeft value))) := by
  have hvisible : Stops isBlank (c :: key ++ ':' :: value) := stops_cons.2 (isBlank_of_isWord hc)
  have hrest : (margin ++ (c :: key ++ ':' :: value)).dropWhile isBlank = c :: key ++ ':' :: value :=
    dropWhile_append_of_stops hmargin hvisible
  have hall : ∀ d ∈ c :: key, isNameChar d = true :=
    List.forall_mem_cons.2 ⟨by simp [isNameChar, hc], hkey⟩
  have hstop : Stops isNameChar (':' :: value) := stops_cons.2 (by decide)
  have htake := takeWhile_append_of_stops hall hstop
  have hdrop := dropWhile_append_of_stops hall hstop
  have hcolon : (':' :: value).dropWhile isBlank = ':' :: value := dropWhile_eq_self (stops_cons.2 (by decide))
  rw [Content.ofLine, hrest]
  split
  · -- a dash is no character of words
    rename_i heq
    rw [(List.cons.inj heq).1] at hc
    exact absurd hc (by decide)
  · simp only [htake, hdrop, hcolon, List.length_append, Nat.add_sub_cancel, trimLeft]

theorem isTop_append (hmargin : ∀ c ∈ margin, isBlank c = true) (hne : margin ≠ []) (cs : List Char) :
    isTop (margin ++ cs) = false := by
  obtain ⟨b, margin, rfl⟩ := List.exists_cons_of_ne_nil hne
  simp [isTop, hmargin b List.mem_cons_self]

/-- An item is part of the service that it is written in, however it is indented. -/
theorem isInner_item (hmargin : ∀ c ∈ margin, isBlank c = true) (hne : margin ≠ []) (raw : List Char) :
    IsInner (margin ++ '-' :: raw) := by
  have hname : serviceName? (margin ++ '-' :: trimRight raw) = none := by
    refine Option.eq_none_iff_forall_ne_some.2 fun name hname => ?_
    obtain ⟨indent, c, rest, heq, -, hblank, hc⟩ := exists_serviceName? hname
    -- what comes after the blanks is a dash here and a word there
    have hdash : (margin ++ '-' :: trimRight raw).dropWhile isBlank = '-' :: trimRight raw :=
      dropWhile_append_of_stops hmargin (stops_cons.2 (by decide))
    have hword : (indent ++ c :: rest).dropWhile isBlank = c :: rest :=
      dropWhile_append_of_stops hblank (stops_cons.2 (isBlank_of_isWord hc))
    rw [heq, hword] at hdash
    rw [(List.cons.inj hdash).1] at hc
    exact absurd hc (by decide)
  right
  rw [trimRight_append_cons (by decide), isBody, isTop_append hmargin hne, hname]
  rfl

theorem isIdle_of_trimRight_eq_nil {cs : List Char} (hmargin : ∀ c ∈ margin, isBlank c = true)
    (h : trimRight cs = []) : isIdle (trimRight (margin ++ cs)) = true := by
  have hcs : ∀ c ∈ cs, isBlank c = true := by simpa [trimRight] using h
  have hall : ∀ c ∈ (margin ++ cs).reverse, isBlank c = true := by
    simpa [or_imp, forall_and] using And.intro hcs hmargin
  rw [trimRight, List.dropWhile_eq_nil_iff.2 hall]
  rfl

/-- A line behind three blanks is part of the service that it is written in. -/
theorem isInner_append (hmargin : ∀ c ∈ margin, isBlank c = true) (hlength : 2 < margin.length) (cs : List Char) :
    IsInner (margin ++ cs) := by
  have hname : ∀ xs, serviceName? (margin ++ xs) = none := by
    intro xs
    match margin, hlength with
    | a :: b :: d :: margin, _ =>
      have hword (e : Char) (he : e ∈ a :: b :: d :: margin) : isWord e = false := by
        by_contra hword
        have hvisible := isBlank_of_isWord (by simpa using hword)
        rw [hmargin e he] at hvisible
        cases hvisible
      simp [serviceName?, nameBeforeColon?, hword b (by simp), hword d (by simp)]
  have hbody : ∀ xs, isBody (margin ++ xs) = true := by
    intro xs
    rw [isBody, isTop_append hmargin (List.ne_nil_of_length_pos (by omega)), hname]
    rfl
  by_cases hblank : trimRight cs = []
  · exact .inl (isIdle_of_trimRight_eq_nil hmargin hblank)
  · right
    rw [trimRight_append hblank]
    exact hbody _

theorem isIdle_append_cons (hmargin : ∀ c ∈ margin, isBlank c = true) (hc : isBlank c = false) (hsign : c ≠ '#')
    (cs : List Char) : isIdle (margin ++ c :: cs) = false := by
  have htrim : trim (margin ++ c :: cs) = c :: trimRight cs := by
    rw [trim, trimLeft_append hmargin, trimLeft_cons hc, trimRight_cons hc]
  simp [isIdle, htrim, hsign]

namespace Open

/-- A service after one more line of the file. -/
def readLine (o : Open) (l : Line) : Open :=
  if isIdle (trimRight l) then o else o.step (trimRight l)

theorem foldl_seen (o : Open) (ls : List Line) : (seen ls).foldl step o = ls.foldl readLine o := by
  rw [seen, List.foldl_filter, List.foldl_map]
  refine congrArg (fun f => ls.foldl f o) (funext₂ fun o l => ?_)
  rw [readLine]
  cases isIdle (trimRight l) <;> rfl

variable {s : Service} {sec : Section} {outer : Nat}

theorem readLine_item (hmargin : ∀ c ∈ margin, isBlank c = true) (raw : List Char) (s : Service) (sec : Section)
    (outer : Nat) : readLine ⟨s, some (sec, outer)⟩ (margin ++ '-' :: raw) =
      ⟨s.addItem sec (trimLeft (trimRight raw)), some (sec, outer)⟩ := by
  have hdash : isBlank '-' = false := by decide
  rw [readLine, trimRight_append_cons hdash, isIdle_append_cons hmargin hdash (by decide), if_neg (by decide), step,
    ofLine_item hmargin]

/-- The entry that a line holds. -/
theorem readLine_entry (hmargin : ∀ c ∈ margin, isBlank c = true) (hc : isWord c = true)
    (hkey : ∀ d ∈ key, isNameChar d = true) (value : List Char) (o : Open) :
    o.readLine (margin ++ (c :: key ++ ':' :: value)) =
      match o.within with
      | some (sec, outer) =>
        if outer < margin.length then
          { o with service := o.service.addEntry sec (c :: key) (trim (dropComment (trimLeft (trimRight value)))) }
        else o.setKey margin.length (c :: key) (trim (dropComment (trimLeft (trimRight value))))
      | none => o.setKey margin.length (c :: key) (trim (dropComment (trimLeft (trimRight value)))) := by
  have hvisible := isBlank_of_isWord hc
  have hsign : c ≠ '#' := by
    rintro rfl
    exact absurd hc (by decide)
  have hright : trimRight (margin ++ (c :: key ++ ':' :: value)) =
      margin ++ (c :: key ++ ':' :: trimRight value) := by
    have hcolon := trimRight_append_cons (c := ':') (by decide) (margin ++ c :: key) value
    simpa using hcolon
  have hidle : isIdle (margin ++ (c :: key ++ ':' :: trimRight value)) = false :=
    isIdle_append_cons hmargin hvisible hsign _
  rw [readLine, hright, hidle, if_neg (by decide), step, ofLine_entry hmargin hc hkey]
  cases o.within <;> rfl

end Open

end Lines

/-! ## Variables that are there already -/

/-- A service that has variables in front of its own. -/
def Service.withVariables (vs : List EnvVar) (s : Service) : Service :=
  { s with envVars := vs ++ s.envVars }

def Open.withVariables (vs : List EnvVar) (o : Open) : Open :=
  { o with service := o.service.withVariables vs }

section Variables

variable {vs : List EnvVar}

theorem Service.withVariables_addItem (vs : List EnvVar) (s : Service) (sec : Section) (raw : List Char) :
    (s.withVariables vs).addItem sec raw = (s.addItem sec raw).withVariables vs := by
  rw [addItem, addItem]
  split
  · rfl
  · cases sec <;> simp [withVariables]

theorem Service.withVariables_addEntry (vs : List EnvVar) (s : Service) (sec : Section) (key value : List Char) :
    (s.withVariables vs).addEntry sec key value = (s.addEntry sec key value).withVariables vs := by
  cases sec with
  | environment => simp [addEntry, withVariables]
  | dependsOn =>
    rw [addEntry, addEntry]
    split_ifs <;> rfl
  | _ => rfl

namespace Open

theorem withVariables_setKey (vs : List EnvVar) (o : Open) (indent : Nat) (key value : List Char) :
    (o.withVariables vs).setKey indent key value = (o.setKey indent key value).withVariables vs := by
  rw [setKey, setKey]
  split
  · rfl
  · split
    · exact congrArg (fun s => (⟨s, none⟩ : Open))
        (List.foldl_hom (Service.withVariables vs) fun s item => s.withVariables_addItem vs _ item)
    · rfl
    · rfl

theorem withVariables_step (vs : List EnvVar) (o : Open) (l : Line) :
    (o.withVariables vs).step l = (o.step l).withVariables vs := by
  have hwithin : (o.withVariables vs).within = o.within := rfl
  rw [step, step, hwithin]
  split
  · exact congrArg (fun s => (⟨s, o.within⟩ : Open)) (o.service.withVariables_addItem vs _ _)
  · split_ifs
    · exact congrArg (fun s => (⟨s, o.within⟩ : Open)) (o.service.withVariables_addEntry vs _ _ _)
    · exact o.withVariables_setKey vs _ _ _
  · exact o.withVariables_setKey vs _ _ _
  · rfl

end Open

/-- Variables that are there stay in front of what the lines that follow add. -/
theorem Place.finished_withVariables (p : Place) (vs : List EnvVar) (o : Open) :
    p.finished (o.withVariables vs) = (p.finished o).withVariables vs :=
  congrArg Open.service (List.foldl_hom (Open.withVariables vs) (Open.withVariables_step vs))

end Variables

/-! ## What is imported -/

section Reading

variable {r : Registry} {reserved : List String} {fileName text text' : String} {ss ss' earlier later : List Service}
  {s s' : Service} {vs vs' first : List EnvVar}

theorem read_congr (h : services text' = services text) :
    Format.compose.read r reserved fileName text' = Format.compose.read r reserved fileName text := by
  have hsketch : Sketch.ofCompose r text' = Sketch.ofCompose r text := by rw [ofCompose_eq, ofCompose_eq, h]
  rw [Format.read_eq_map, Format.read_eq_map, Format.sketch, hsketch, Format.sketch]

/-- Positions come from names alone. -/
theorem position?_congr (h : names ss' = names ss) : position? ss' = position? ss := by
  have hnames : ∀ ss : List Service, position? ss =
      fun name => (((names ss).zipIdx.reverse.find? fun n => n.1 = name).map Prod.snd) := by
    intro ss
    funext name
    rw [position?, names, List.zipIdx_map, ← List.map_reverse, List.find?_map, Option.map_map]
    rfl
  rw [hnames, hnames, h]

theorem addDependency_congr (hnames : names ss' = names ss) (hname : s'.name = s.name) :
    addDependency ss' s' = addDependency ss s := by
  funext sketch needed
  rw [addDependency, addDependency, position?_congr hnames, hname]

theorem modify_addDependency (ss : List Service) (s : Service) (n : Nat) (change : Draft → Draft) (sketch : Sketch)
    (needed : String) : addDependency ss s (sketch.modify n change) needed =
      (addDependency ss s sketch needed).modify n change := by
  rw [addDependency, addDependency]
  split
  · rw [Sketch.addLink, Sketch.addLink]
    split_ifs <;> first | rfl | contradiction
  · rfl

/-- A service that needs the same and is drafted with a change. -/
theorem ofCompose_modify {change : Draft → Draft} (h : services text = earlier ++ s :: later)
    (h' : services text' = earlier ++ s' :: later) (hname : s'.name = s.name) (hneeds : s'.dependsOn = s.dependsOn)
    (hdraft : s'.draft r = change (s.draft r)) (hwarnings : s'.warnings r = s.warnings r) :
    Sketch.ofCompose r text' = (Sketch.ofCompose r text).modify earlier.length change := by
  have hnames : names (services text') = names (services text) := by simp [names, h, h', hname]
  have hadd : addDependency (services text') = addDependency (services text) :=
    funext fun s => addDependency_congr hnames rfl
  have hsame : addDependency (services text) s' = addDependency (services text) s := addDependency_congr rfl hname
  -- the dependencies are the same, and they add links and warnings only
  have hlinked : ∀ sketch : Sketch,
      (services text').foldl (fun sketch s => s.dependsOn.foldl (addDependency (services text') s) sketch)
        (sketch.modify earlier.length change) =
      ((services text).foldl (fun sketch s => s.dependsOn.foldl (addDependency (services text) s) sketch)
        sketch).modify earlier.length change := by
    intro sketch
    rw [hadd, h']
    generalize hneed : addDependency (services text) = need at hsame ⊢
    have hmodify : ∀ (s : Service) (sketch : Sketch), s.dependsOn.foldl (need s) (sketch.modify earlier.length change) =
        (s.dependsOn.foldl (need s) sketch).modify earlier.length change := by
      intro s sketch
      exact List.foldl_hom (Sketch.modify · earlier.length change) fun sketch needed =>
        hneed ▸ modify_addDependency (services text) s earlier.length change sketch needed
    have hall : (services text).foldl (fun sketch s => s.dependsOn.foldl (need s) sketch)
          (sketch.modify earlier.length change) =
        ((services text).foldl (fun sketch s => s.dependsOn.foldl (need s) sketch) sketch).modify
          earlier.length change :=
      List.foldl_hom (Sketch.modify · earlier.length change) fun sketch s => hmodify s sketch
    rw [← hall, h, List.foldl_append, List.foldl_append, List.foldl_cons, List.foldl_cons, hsame, hneeds]
  have hdrafts : (services text').map (Service.draft r) =
      ((services text).map (Service.draft r)).modify earlier.length change := by
    have hlength : (earlier.map (Service.draft r)).length = earlier.length := List.length_map _
    rw [h, h', List.map_append, List.map_append, List.map_cons, List.map_cons, ← hlength, List.modify_append_cons,
      hdraft]
  have hflat : (services text').flatMap (Service.warnings r) = (services text).flatMap (Service.warnings r) := by
    rw [h, h', List.flatMap_append, List.flatMap_append, List.flatMap_cons, List.flatMap_cons, hwarnings]
  have hfull : (services text').isEmpty = false ∧ (services text).isEmpty = false := by simp [h, h']
  simp only [Sketch.ofCompose, hfull, hdrafts, hflat]
  exact hlinked ⟨_, [], _⟩

/-- Variables that are put into a service are put into what is imported. -/
theorem read_insertVariables (h : services text = earlier ++ s.withVariables first :: later)
    (h' : services text' = earlier ++ s.withVariables (first ++ vs) :: later) :
    Format.compose.read r reserved fileName text' = (Format.compose.read r reserved fileName text).map
      (Imported.insertVariables earlier.length first.length vs) := by
  have hdraft : (s.withVariables (first ++ vs)).draft r =
      ((s.withVariables first).draft r).insertVariables first.length vs := by
    simp [Service.draft, Service.product, Service.withVariables, Draft.insertVariables,
      ResourceConfig.insertVariables]
  exact Format.read_insertVariables rfl (congrArg Except.ok (ofCompose_modify h h' rfl rfl hdraft rfl))

end Reading

end Compose
end HostTopology
