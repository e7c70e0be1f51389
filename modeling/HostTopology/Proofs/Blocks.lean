import HostTopology.Compose.Service
import HostTopology.Proofs.Lines

/-!
# Blocks — how a compose file is laid out

The scanner carries the current service and the open section from line to line. Nothing of it gets from one service
into the next, so that a file falls into blocks which are read on their own; and a text of which the services are
known, line by line, is read as these services.

* `Block` — the line of a service under `services:`, and the lines that belong to it;
* `Scanner.outlook` — what is found in all from a state of the scanner on: the rest of the current service, and blocks;
* `Scanner.outlook_step`, `Scanner.services_foldl` — no line changes that; a service that is entered has no section open,
  whatever was open before (`Scanner.outlook_enter`);
* `services_eq_blocks` — a file is read block by block;
* `exists_serviceName?` — a line with the name of a service is indented, and goes on with a word;
* `Written` — a service as it is written: the line with its name, and lines that hold no other name;
* `IsServiceFile` — a text that is `services:` and then services, with blank lines and comments anywhere;
* `services_eq` — what such a text is read as: no line is taken for another service than its own.
-/

namespace HostTopology

namespace Compose

open Text

/-! ## Lines of services -/

/-- A line that belongs to the service before it. -/
def isBody (l : Line) : Bool :=
  !isTop l && (serviceName? l).isNone

theorem exists_nameBeforeColon? {cs : List Char} {name : String} (h : nameBeforeColon? cs = some name) :
    ∃ c rest, cs = c :: rest ∧ isWord c = true := by
  cases cs with
  | nil => cases h
  | cons c rest =>
    rw [nameBeforeColon?] at h
    split_ifs at h with hname
    exact ⟨c, rest, rfl, (Bool.and_eq_true_iff.1 hname).1⟩

/-- The name of a service stands behind two blanks or a tab. -/
theorem exists_indent {l : Line} {name : String} (h : serviceName? l = some name) :
    ∃ indent cs, l = indent ++ cs ∧ indent ≠ [] ∧ (∀ b ∈ indent, isBlank b = true) ∧ nameBeforeColon? cs = some name := by
  match l with
  | [] => cases h
  | [_] => cases h
  | a :: b :: rest =>
    rw [serviceName?] at h
    rcases Option.or_eq_some_iff.1 h with hwide | ⟨-, htab⟩
    · split_ifs at hwide with hblank
      exact ⟨[a, b], rest, rfl, by simp, by simpa using hblank, hwide⟩
    · split_ifs at htab with ha
      exact ⟨[a], b :: rest, rfl, by simp, by simp [ha]; decide, htab⟩

/-- A line that holds the name of a service is indented, and goes on with a word. -/
theorem exists_serviceName? {l : Line} {name : String} (h : serviceName? l = some name) :
    ∃ indent c rest, l = indent ++ c :: rest ∧ indent ≠ [] ∧ (∀ b ∈ indent, isBlank b = true) ∧ isWord c = true := by
  obtain ⟨indent, cs, rfl, hne, hblank, hname⟩ := exists_indent h
  obtain ⟨c, rest, rfl, hc⟩ := exists_nameBeforeColon? hname
  exact ⟨indent, c, rest, rfl, hne, hblank, hc⟩

theorem isTop_of_serviceName? {l : Line} {name : String} (h : serviceName? l = some name) : isTop l = false := by
  obtain ⟨indent, c, rest, rfl, hne, hblank, -⟩ := exists_serviceName? h
  obtain ⟨b, bs, rfl⟩ := List.exists_cons_of_ne_nil hne
  simp [isTop, hblank b List.mem_cons_self]

theorem isIdle_of_serviceName? {l : Line} {name : String} (h : serviceName? l = some name) : isIdle l = false := by
  obtain ⟨indent, c, rest, rfl, -, hblank, hc⟩ := exists_serviceName? h
  have hvisible := isBlank_of_isWord hc
  have htrim : trim (indent ++ c :: rest) = c :: trimRight rest := by
    rw [trim, trimLeft, List.dropWhile_append_of_pos hblank, List.dropWhile_cons_of_neg (by simp [hvisible]),
      trimRight_cons hvisible]
  have hcomment : c ≠ '#' := by
    rintro rfl
    exact absurd hc (by decide)
  simp [isIdle, htrim, hcomment]

theorem isBody_of_serviceName? {l : Line} {name : String} (h : serviceName? l = some name) : isBody l = false := by
  simp [isBody, h]

/-! ## Lines that are looked at -/

/-- The lines of which a reader takes notice. -/
def seen (ls : List Line) : List Line :=
  (ls.map trimRight).filter fun l => !isIdle l

theorem seen_cons_of_isIdle {l : Line} (h : isIdle (trimRight l) = true) (ls : List Line) : seen (l :: ls) = seen ls := by
  simp [seen, h]

theorem seen_cons {l : Line} (h : isIdle (trimRight l) = false) (ls : List Line) :
    seen (l :: ls) = trimRight l :: seen ls := by
  simp [seen, h]

theorem seen_append (ls ls' : List Line) : seen (ls ++ ls') = seen ls ++ seen ls' := by
  rw [seen, List.map_append, List.filter_append, seen, seen]

theorem isBody_of_mem_seen {ls : List Line} (h : ∀ l ∈ ls, isIdle (trimRight l) = true ∨ isBody (trimRight l) = true)
    {l : Line} (hl : l ∈ seen ls) : isBody l = true := by
  rcases List.mem_filter.1 hl with ⟨hl, hseen⟩
  rcases List.mem_map.1 hl with ⟨raw, hraw, rfl⟩
  refine (h raw hraw).resolve_left fun hidle => ?_
  simp [hidle] at hseen

/-! ## Blocks -/

structure Block where
  name : String
  body : List Line
deriving DecidableEq, Repr

/-- The blocks in lines of which the first are, or are not, under `services:`. Body lines are taken
with the line of their service, so that they can be passed over afterwards. -/
def blocksFrom : Bool → List Line → List Block
  | _, [] => []
  | inServices, l :: ls =>
    if isTop l then blocksFrom (trim l = "services:".toList) ls
    else
      match inServices, serviceName? l with
      | true, some name => ⟨name, ls.takeWhile isBody⟩ :: blocksFrom true ls
      | _, _ => blocksFrom inServices ls

def blocks (text : List Char) : List Block :=
  blocksFrom false (seen (lines text))

/-- A block is read from its own lines, with no section open at the first of them. -/
def Block.service (b : Block) : Service :=
  (b.body.foldl Open.step ⟨.named b.name, none⟩).service

/-! ## Services as they are written -/

/-- The line with the name of a service, and the lines that follow it up to the next service. Each of these is
blank, a comment, or an indented line that holds no name of a service. Any two blanks indent a name, two tabs
as well. -/
structure Written where
  name : String
  head : Line
  rest : List Line
  names : serviceName? (trimRight head) = some name
  body : ∀ l ∈ rest, isIdle (trimRight l) = true ∨ isBody (trimRight l) = true

namespace Written

variable (w : Written)

def lines : List Line :=
  w.head :: w.rest

def block : Block :=
  ⟨w.name, seen w.rest⟩

/-- What the lines of a service say. -/
def service : Service :=
  w.block.service

theorem seen_lines : seen w.lines = trimRight w.head :: seen w.rest := by
  simp [seen, lines, isIdle_of_serviceName? w.names]

end Written

/-- A text with one line `services:`, and then services. -/
def IsServiceFile (text : String) (ws : List Written) : Prop :=
  ∃ header, Text.lines text.toList = header ++ ws.flatMap Written.lines ∧ seen header = ["services:".toList]

/-! ## Blocks of a file -/

theorem blocksFrom_cons (under : Bool) (l : Line) (ls : List Line) : blocksFrom under (l :: ls) =
    if isTop l then blocksFrom (trim l = "services:".toList) ls
    else (if under then (serviceName? l).toList.map fun name => ⟨name, ls.takeWhile isBody⟩ else []) ++
      blocksFrom under ls := by
  cases htop : isTop l <;> cases under <;> cases hname : serviceName? l <;> simp [blocksFrom, htop, hname]

theorem blocksFrom_cons_of_isBody {l : Line} (h : isBody l = true) (ls : List Line) :
    blocksFrom true (l :: ls) = blocksFrom true ls := by
  rcases Bool.and_eq_true_iff.1 h with ⟨htop, hname⟩
  have htop : isTop l = false := by simpa using htop
  have hname : serviceName? l = none := Option.isNone_iff_eq_none.1 hname
  simp [blocksFrom, htop, hname]

theorem blocksFrom_cons_of_serviceName? {l : Line} {name : String} (h : serviceName? l = some name) (ls : List Line) :
    blocksFrom true (l :: ls) = ⟨name, ls.takeWhile isBody⟩ :: blocksFrom true ls := by
  simp [blocksFrom, isTop_of_serviceName? h, h]

/-! ### The scanner -/

namespace Scanner

variable {s : Scanner} {service : Service}

/-- The current service, if there is any, at the end of some more lines of it. -/
def finished (s : Scanner) (body : List Line) : List Service :=
  (s.current.map fun service => (body.foldl Open.step ⟨service, s.within⟩).service).toList

theorem finished_nil (s : Scanner) : s.finished [] = s.current.toList := by
  rw [finished]
  cases s.current <;> rfl

/-- There is a current service under `services:` only. -/
def IsPlaced (s : Scanner) : Prop :=
  s.inServices = false → s.current = none

/-- What is found in all, where these lines follow: the services so far, the current one with the lines that are its
own, and blocks. -/
def outlook (s : Scanner) (ls : List Line) : List Service :=
  s.earlier ++ s.finished (ls.takeWhile isBody) ++ (blocksFrom s.inServices ls).map Block.service

theorem outlook_nil (s : Scanner) : s.outlook [] = s.services := by
  have hnone : blocksFrom s.inServices [] = [] := by cases s.inServices <;> rfl
  rw [outlook, hnone, List.takeWhile_nil, finished_nil, List.map_nil, List.append_nil, services]

theorem outlook_top {l : Line} (h : isTop l = true) (s : Scanner) (ls : List Line) :
    (s.top (trim l = "services:".toList)).outlook ls = s.outlook (l :: ls) := by
  have hbody : ¬ isBody l = true := by simp [isBody, h]
  rw [outlook, outlook, List.takeWhile_cons_of_neg hbody, finished_nil, blocksFrom_cons, if_pos h]
  exact congrArg (· ++ _) (List.append_nil _)

/-- A service is read from its own lines: whatever section was open before it, and however far that was indented, its
lines find none. -/
theorem outlook_enter {l : Line} {name : String} (hname : serviceName? l = some name) (h : s.inServices = true)
    (ls : List Line) : (s.enter name).outlook ls = s.outlook (l :: ls) := by
  have hbody : ¬ isBody l = true := by simp [isBody, hname]
  have hfresh : ∀ body, (s.enter name).finished body = [Block.service ⟨name, body⟩] := fun _ => rfl
  have hunder : (s.enter name).inServices = true := h
  rw [outlook, outlook, List.takeWhile_cons_of_neg hbody, finished_nil, hfresh, hunder, h,
    blocksFrom_cons_of_serviceName? hname, List.map_cons, List.append_assoc]
  rfl

/-- What is carried over a line of a service is what the line leaves open. -/
theorem outlook_inside {l : Line} (hl : isBody l = true) (hcurrent : s.current = some service)
    (h : s.inServices = true) (ls : List Line) : (s.inside service l).outlook ls = s.outlook (l :: ls) := by
  have hwithin : (s.inside service l).within = (Open.step ⟨service, s.within⟩ l).within := by
    rw [inside, within]
    cases (Open.step ⟨service, s.within⟩ l).within <;> rfl
  have hfinished : ∀ body, (s.inside service l).finished body = s.finished (l :: body) := fun body => by
    rw [finished, finished, hwithin, hcurrent]
    rfl
  have hunder : (s.inside service l).inServices = true := h
  rw [outlook, outlook, List.takeWhile_cons_of_pos hl, hfinished, hunder, h, blocksFrom_cons_of_isBody hl]
  rfl

/-- Lines that belong to no service are passed over. -/
theorem outlook_cons {l : Line} (htop : isTop l = false) (hcurrent : s.current = none)
    (h : s.inServices = true → serviceName? l = none) (ls : List Line) : s.outlook ls = s.outlook (l :: ls) := by
  have hfinished : ∀ body, s.finished body = [] := fun body => by rw [finished, hcurrent]; rfl
  have hblocks : blocksFrom s.inServices (l :: ls) = blocksFrom s.inServices ls := by
    rw [blocksFrom_cons, if_neg (by simp [htop])]
    cases hunder : s.inServices with
    | false => rfl
    | true => simp [h hunder]
  rw [outlook, outlook, hfinished, hfinished, hblocks]

theorem isPlaced_step (h : s.IsPlaced) (l : Line) : (s.step l).IsPlaced := by
  rw [step]
  split
  · exact h
  · split
    · exact fun _ => rfl
    · split
      · rename_i hunder
        have hplaced : ∀ s' : Scanner, s'.inServices = s.inServices → s'.IsPlaced := fun s' hs' hnone => by
          rw [hs', hunder] at hnone
          cases hnone
        split <;> exact hplaced _ rfl
      · exact h

/-- No line changes what is found in all. -/
theorem outlook_step (h : s.IsPlaced) (l : Line) (ls : List Line) :
    (s.step l).outlook (seen ls) = s.outlook (seen (l :: ls)) := by
  rw [step]
  split
  · -- a blank line or a comment is not seen
    rename_i hidle
    rw [seen_cons_of_isIdle hidle]
  · rename_i hidle
    -- any other line is the next one that is seen
    rw [seen_cons (by simpa using hidle)]
    split
    · rename_i htop
      exact outlook_top htop s _
    · rename_i htop
      have htop : isTop (trimRight l) = false := by simpa using htop
      split
      · rename_i hunder
        split
        · rename_i name hname
          exact outlook_enter hname hunder _
        · rename_i service hname hcurrent
          exact outlook_inside (by simp [isBody, htop, hname]) hcurrent hunder _
        · rename_i hname hcurrent
          exact outlook_cons htop hcurrent (fun _ => hname) _
      · -- outside of the services there is no current one
        rename_i hunder
        exact outlook_cons htop (h (by simpa using hunder)) (fun hin => absurd hin hunder) _

/-- Whatever has been read before, the lines that follow are the rest of the current service, up to the next line that
is none of its own, and then blocks. -/
theorem services_foldl (h : s.IsPlaced) (ls : List Line) : (ls.foldl step s).services = s.outlook (seen ls) := by
  induction ls generalizing s with
  | nil => exact (outlook_nil s).symm
  | cons l ls ih => rw [List.foldl_cons, ih (isPlaced_step h l), outlook_step h]

end Scanner

/-- A file is read block by block. -/
theorem services_eq_blocks (text : String) : services text = (blocks text.toList).map Block.service := by
  rw [services, Scanner.services_foldl fun _ => rfl]
  rfl

/-- The lines of a service are passed over after its block has been made of them. -/
theorem blocksFrom_append {body : List Line} (h : ∀ l ∈ body, isBody l = true) (ls : List Line) :
    blocksFrom true (body ++ ls) = blocksFrom true ls := by
  induction body with
  | nil => rfl
  | cons l body ih =>
    -- a line of a body is no top line, so that the text is still under `services:` after it
    rw [List.cons_append, blocksFrom_cons_of_isBody (h l List.mem_cons_self)]
    exact ih fun l' hl' => h l' (List.mem_cons_of_mem l hl')

/-- The lines after a service belong to it up to the line of the next one. -/
theorem takeWhile_isBody {body : List Line} (h : ∀ l ∈ body, isBody l = true) (ws : List Written) :
    (body ++ seen (ws.flatMap Written.lines)).takeWhile isBody = body := by
  rw [List.takeWhile_append_of_pos h]
  -- a service begins with a line that holds a name, and that line is none of the body
  cases ws with
  | nil => exact List.append_nil body
  | cons w ws =>
    rw [List.flatMap_cons, seen_append, w.seen_lines, List.cons_append,
      List.takeWhile_cons_of_neg (by simp [isBody_of_serviceName? w.names]), List.append_nil]

theorem blocksFrom_written (ws : List Written) :
    blocksFrom true (seen (ws.flatMap Written.lines)) = ws.map Written.block := by
  induction ws with
  | nil => rfl
  | cons w ws ih =>
    have hbody : ∀ l ∈ seen w.rest, isBody l = true := fun l hl => isBody_of_mem_seen w.body hl
    rw [List.flatMap_cons, seen_append, w.seen_lines, List.cons_append, blocksFrom_cons_of_serviceName? w.names,
      takeWhile_isBody hbody, blocksFrom_append hbody, ih]
    rfl

theorem services_eq {text : String} {ws : List Written} (h : IsServiceFile text ws) :
    services text = ws.map Written.service := by
  obtain ⟨header, hlines, hheader⟩ := h
  have hblocks : blocks text.toList = ws.map Written.block := by
    change blocksFrom false (seen (Text.lines text.toList)) = _
    rw [hlines, seen_append, hheader]
    exact blocksFrom_written ws
  rw [services_eq_blocks, hblocks, List.map_map]
  rfl

/-! ## Names -/

namespace Service

theorem name_addItem (s : Service) (sec : Section) (raw : List Char) : (s.addItem sec raw).name = s.name := by
  rw [addItem]
  split
  · rfl
  · cases sec <;> rfl

theorem name_addEntry (s : Service) (sec : Section) (key value : List Char) :
    (s.addEntry sec key value).name = s.name := by
  cases sec with
  | dependsOn =>
    rw [addEntry]
    split_ifs <;> rfl
  | _ => rfl

end Service

theorem Open.name_setKey (o : Open) (indent : Nat) (key value : List Char) :
    (o.setKey indent key value).service.name = o.service.name := by
  rw [setKey]
  split
  · rfl
  · split
    · exact List.foldlRecOn (motive := fun s : Service => s.name = o.service.name) _ _ rfl fun s hs item _ =>
        (s.name_addItem _ item).trans hs
    · rfl
    · rfl

theorem Open.name_step (o : Open) (l : Line) : (o.step l).service.name = o.service.name := by
  rw [step]
  split
  · exact Service.name_addItem _ _ _
  · split_ifs
    · exact Service.name_addEntry _ _ _ _
    · exact o.name_setKey _ _ _
  · exact o.name_setKey _ _ _
  · rfl

/-- The lines of a block do not change its name. -/
theorem Block.name_service (b : Block) : b.service.name = b.name :=
  List.foldlRecOn (motive := fun o : Open => o.service.name = b.name) _ _ rfl fun o ho l _ => (o.name_step l).trans ho

theorem Written.name_service (w : Written) : w.service.name = w.name :=
  w.block.name_service

end Compose
end HostTopology
