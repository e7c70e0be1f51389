import HostTopology.Proofs.Builds
import HostTopology.Proofs.Positions
import Mathlib.Data.Set.Finite.Basic

/-!
# Continuation — instructions of a Dockerfile that go on in the next line

A backslash at the end of a line joins the next line to it. Between instructions blank lines and comments are
passed over; in an instruction that goes on they are not:

* `goesOn` — some lines end within an instruction;
* `Joined` — the joining of lines as a run over them;
* `joined_insert` — between instructions a line that is blank or a comment is not noticed;
* `remarks_inert_iff` — where such lines can be put in without a change to what is imported.
-/

namespace HostTopology
namespace Dockerfile

open Text

abbrev Line := List Char

/-! ## Lines that lead on -/

/-- Blank lines and comments. -/
def isIdle (l : Line) : Bool :=
  trim l = [] || (trim l).head? = some '#'

/-- A backslash at the end leads on to the next line. -/
def leadsOn (l : Line) : Bool :=
  (trim l).getLast? = some '\\'

/-- An instruction goes on after some lines. Blank lines and comments between instructions do not begin one. -/
def goesOn (ls : List Line) : Bool :=
  ls.foldl (fun isOpen l => if !isOpen && isIdle l then false else leadsOn l) false

/-- The instructions that have been joined, and the beginning of one that goes on. -/
structure Joined where
  complete : List Line
  pending : List Char

namespace Joined

variable {j : Joined} {l : Line}

def empty : Joined :=
  ⟨[], []⟩

def add (j : Joined) (l : Line) : Joined :=
  if j.pending = [] ∧ isIdle l = true then j
  else if leadsOn l then ⟨j.complete, j.pending ++ (trim l).dropLast ++ [' ']⟩
  else ⟨j.complete ++ [j.pending ++ trim l], []⟩

/-- Nothing follows the last line, so that what is pending is an instruction as well. -/
def instructions (j : Joined) : List Line :=
  j.complete ++ if trim j.pending = [] then [] else [trim j.pending]

theorem add_of_idle (hpending : j.pending = []) (hl : isIdle l = true) : j.add l = j :=
  if_pos ⟨hpending, hl⟩

theorem add_of_leadsOn (h : j.pending ≠ [] ∨ isIdle l = false) (hl : leadsOn l = true) :
    j.add l = ⟨j.complete, j.pending ++ (trim l).dropLast ++ [' ']⟩ := by
  rw [add, if_neg (by simpa [imp_iff_not_or] using h), if_pos hl]

theorem add_of_ends (h : j.pending ≠ [] ∨ isIdle l = false) (hl : leadsOn l = false) :
    j.add l = ⟨j.complete ++ [j.pending ++ trim l], []⟩ := by
  rw [add, if_neg (by simpa [imp_iff_not_or] using h), if_neg (by simp [hl])]

/-- An instruction goes on exactly if something is pending. -/
theorem pending_add (j : Joined) (l : Line) : decide ((j.add l).pending ≠ []) =
    if !decide (j.pending ≠ []) && isIdle l then false else leadsOn l := by
  by_cases hpending : j.pending = [] <;> cases hidle : isIdle l <;> cases hleads : leadsOn l <;>
    simp [add, hpending, hidle, hleads]

end Joined

/-- The run over some lines. -/
def joined (ls : List Line) : Joined :=
  ls.foldl Joined.add .empty

theorem joinLines_eq (j : Joined) (ls : List Line) :
    j.complete ++ joinLines j.pending ls = (ls.foldl Joined.add j).instructions := by
  -- what is complete is kept in front, so that the run can be taken up anywhere
  induction ls generalizing j with
  | nil => rfl
  | cons l ls ih =>
    rw [List.foldl_cons, ← ih]
    by_cases hidle : j.pending = [] ∧ isIdle l = true
    · have hpassed : j.pending = [] ∧ (trim l = [] ∨ (trim l).head? = some '#') := by simpa [isIdle] using hidle
      simp [joinLines, Joined.add_of_idle hidle.1 hidle.2, hpassed]
    · have hseen : j.pending ≠ [] ∨ isIdle l = false := by simpa [imp_iff_not_or] using hidle
      have htaken : ¬ (j.pending = [] ∧ (trim l = [] ∨ (trim l).head? = some '#')) := by simpa [isIdle] using hidle
      by_cases hleads : leadsOn l = true
      · have hlast : (trim l).getLast? = some '\\' := by simpa [leadsOn] using hleads
        simp [joinLines, Joined.add_of_leadsOn hseen hleads, htaken, hlast]
      · have hlast : ¬ (trim l).getLast? = some '\\' := by simpa [leadsOn] using hleads
        simp [joinLines, Joined.add_of_ends hseen (by simpa using hleads), htaken, hlast]

theorem instructions_eq (text : List Char) : instructions text = (joined (lines text)).instructions :=
  joinLines_eq .empty (lines text)

theorem pending_joined_iff {ls : List Line} : (joined ls).pending = [] ↔ goesOn ls = false := by
  have hrun : decide ((joined ls).pending ≠ []) = goesOn ls :=
    (List.foldl_hom (fun j : Joined => decide (j.pending ≠ [])) fun j l => (Joined.pending_add j l).symm).symm
  rw [← hrun]
  simp

/-- What is pending ends in the blank that stands for a backslash. -/
theorem exists_pending {ls : List Line} (h : goesOn ls = true) : ∃ cs, (joined ls).pending = cs ++ [' '] := by
  have hends : (joined ls).pending = [] ∨ ∃ cs, (joined ls).pending = cs ++ [' '] := by
    refine List.foldlRecOn (motive := fun j : Joined => j.pending = [] ∨ ∃ cs, j.pending = cs ++ [' ']) _ _
      (.inl rfl) fun j hj l _ => ?_
    rw [Joined.add]
    split_ifs
    · exact hj
    · exact .inr ⟨_, rfl⟩
    · exact .inl rfl
  refine hends.resolve_left fun hnil => ?_
  rw [pending_joined_iff.1 hnil] at h
  cases h

/-- Between instructions a line that is blank or a comment is not noticed. -/
theorem joined_insert {before after : List Line} {l : Line} (hbetween : goesOn before = false)
    (hl : isIdle l = true) : joined (before ++ l :: after) = joined (before ++ after) := by
  have hadd : (joined before).add l = joined before := Joined.add_of_idle (pending_joined_iff.2 hbetween) hl
  calc joined (before ++ l :: after)
      = after.foldl Joined.add ((joined before).add l) := by rw [joined, List.foldl_append, List.foldl_cons, joined]
    _ = after.foldl Joined.add (joined before) := by rw [hadd]
    _ = joined (before ++ after) := by rw [joined, joined, List.foldl_append]

/-! ## Builds of lines -/

/-- What the instructions in some lines say. -/
def Build.ofLines (ls : List Line) : Build :=
  (joined ls).instructions.foldl step .empty

theorem Build.ofText_eq (text : String) : ofText text = ofLines (lines text.toList) := by
  rw [ofText, instructions_eq, ofLines]

/-- Instructions in lines that follow are read after those before them. -/
theorem Build.ofLines_append {before : List Line} (h : goesOn before = false) (after : List Line) :
    ofLines (before ++ after) = (joinLines [] after).foldl step (ofLines before) := by
  have hpending := pending_joined_iff.2 h
  have hbefore : (joined before).instructions = (joined before).complete := by simp [Joined.instructions, hpending]; rfl
  have hall : (joined (before ++ after)).instructions = (joined before).complete ++ joinLines [] after := by
    calc (joined (before ++ after)).instructions
        = (after.foldl Joined.add (joined before)).instructions := by rw [joined, List.foldl_append, joined]
      _ = (joined before).complete ++ joinLines (joined before).pending after := (joinLines_eq _ after).symm
      _ = (joined before).complete ++ joinLines [] after := by rw [hpending]
  rw [ofLines, hall, List.foldl_append, ofLines, hbefore]

/-- A line that is an instruction by itself. -/
theorem joinLines_cons {l : Line} (hends : leadsOn l = false) (hidle : isIdle l = false) (ls : List Line) :
    joinLines [] (l :: ls) = trim l :: joinLines [] ls := by
  have hrun (ls : List Line) : joinLines [] ls = (ls.foldl Joined.add .empty).instructions := joinLines_eq .empty ls
  have hadd : Joined.empty.add l = ⟨[trim l], []⟩ := Joined.add_of_ends (.inr hidle) hends
  rw [hrun, List.foldl_cons, hadd, ← joinLines_eq]
  rfl

variable {r : Registry} {reserved : List String} {fileName : String} {text text' : String}

theorem read_congr (h : Build.ofText text' = Build.ofText text) :
    Format.dockerfile.read r reserved fileName text' = Format.dockerfile.read r reserved fileName text := by
  have hsketch : Sketch.ofDockerfile fileName text' = Sketch.ofDockerfile fileName text := by
    rw [Sketch.ofDockerfile, h, Sketch.ofDockerfile]
  rw [Format.read_eq_map, Format.read_eq_map, Format.sketch, hsketch, Format.sketch]

/-- A Dockerfile is imported as one instance. -/
theorem exists_read (r : Registry) (reserved : List String) (fileName text : String) : ∃ id warnings,
    Format.dockerfile.read r reserved fileName text =
      .ok ⟨⟨[((Build.ofText text).draft fileName).withId id], []⟩, warnings⟩ := by
  obtain ⟨id, hid⟩ := List.length_eq_one_iff.1 (length_freshIds reserved 1)
  refine ⟨id, (Build.ofText text).warnings, ?_⟩
  rw [Format.read_eq rfl]
  change Except.ok (⟨⟨[(Build.ofText text).draft fileName].zipWith Draft.withId (freshIds reserved 1), []⟩, _⟩ :
    Imported) = _
  rw [hid]
  rfl

/-- An import shows the variables and the ports. -/
theorem configuration_of_read (h : Format.dockerfile.read r reserved fileName text' =
    Format.dockerfile.read r reserved fileName text) :
    (Build.ofText text').envVars = (Build.ofText text).envVars ∧
      (Build.ofText text').ports = (Build.ofText text).ports := by
  obtain ⟨id, warnings, hread⟩ := exists_read r reserved fileName text
  obtain ⟨id', warnings', hread'⟩ := exists_read r reserved fileName text'
  rw [hread, hread'] at h
  have hinstances := congrArg (fun found : Imported => found.topology.instances) (Except.ok.inj h)
  have hconfig := congrArg ResourceInstance.config (List.singleton_inj.1 hinstances)
  have hinj : Function.Injective fun port : String => (⟨port, some port⟩ : PortMapping) :=
    fun _ _ heq => (PortMapping.mk.inj heq).1
  exact ⟨congrArg ResourceConfig.envVars hconfig, hinj.list_map (congrArg ResourceConfig.ports hconfig)⟩

/-! ## Within an instruction -/

theorem isBlank_of_trim_eq_nil {cs : List Char} (h : trim cs = []) : ∀ c ∈ cs, isBlank c = true := by
  have hleft : trimLeft cs = [] := by
    by_contra hne
    obtain ⟨c, tail, hcons⟩ := List.exists_cons_of_ne_nil hne
    have hc : isBlank c = false := stops_dropWhile isBlank cs c (by rw [← trimLeft, hcons]; rfl)
    rw [trim, hcons, trimRight_cons hc] at h
    cases h
  exact List.dropWhile_eq_nil_iff.1 hleft

/-- An instruction keeps its keyword when it goes on. A blank one gets none from a comment. -/
theorem keyword_continued_iff (cs rest : List Char) :
    keyword (cs ++ ' ' :: '#' :: ' ' :: rest) = "ENV" ↔ keyword (cs ++ [' ']) = "ENV" := by
  by_cases hblank : trim cs = []
  · -- neither the empty word nor a number sign is the keyword
    have hall : ∀ c ∈ cs ++ [' '], isBlank c = true := by
      simpa [or_imp, forall_and, isBlank_space] using isBlank_of_trim_eq_nil hblank
    have hempty : (splitWord (cs ++ [' '])).1 = [] := by
      rw [splitWord, trimLeft, List.dropWhile_eq_nil_iff.2 hall]
      rfl
    have hsign : (splitWord (cs ++ ' ' :: '#' :: ' ' :: rest)).1 = ['#'] := by
      have hstop : Stops (fun c => !isBlank c) (' ' :: rest) := stops_cons.2 (by decide)
      simpa using fst_splitWord (w := ['#']) hall (by decide) (by decide) hstop
    rw [keyword, keyword, hempty, hsign]
    decide
  · rw [keyword, keyword, fst_splitWord_append hblank isBlank_space]

/-- A line between two visible characters, neither of them special, is an instruction by itself. -/
theorem plain_of_ends {b c : Char} (hb : isBlank b = false) (hc : isBlank c = false) (hsign : b ≠ '#')
    (hslash : c ≠ '\\') (cs : List Char) : trim (b :: (cs ++ [c])) = b :: (cs ++ [c]) ∧
      leadsOn (b :: (cs ++ [c])) = false ∧ isIdle (b :: (cs ++ [c])) = false := by
  have htrim := trim_of_ends hb hc cs
  have hlast : (b :: (cs ++ [c])).getLast? = some c := List.getLast?_concat (l := b :: cs)
  refine ⟨htrim, ?_, ?_⟩
  · rw [leadsOn, htrim, hlast]
    simpa using hslash
  · rw [isIdle, htrim]
    simpa using hsign

/-- The lines after an inserted one: a comment that leads on, and one that is no comment by itself. -/
def probe (l : Line) : List Line :=
  ["#\\".toList, l]

section Probes

variable {before : List Line} {cs : List Char} {l : Line}

/-- Within an instruction the comment is a part of it, and so is what follows. -/
theorem ofLines_probe (hpending : (joined before).pending = cs ++ [' ']) (hends : leadsOn l = false)
    (htrim : trim l = l) : Build.ofLines (before ++ probe l) =
      ((joined before).complete.foldl Build.step .empty).step (cs ++ ' ' :: '#' :: ' ' :: l) := by
  have hcomment : (joined before).add "#\\".toList = ⟨(joined before).complete, cs ++ [' ', '#', ' ']⟩ := by
    rw [Joined.add_of_leadsOn (.inl (by simp [hpending])) (by decide), hpending,
      show (trim "#\\".toList).dropLast = ['#'] by decide]
    simp
  have hrun : joined (before ++ probe l) =
      ⟨(joined before).complete ++ [cs ++ ' ' :: '#' :: ' ' :: l], []⟩ := by
    rw [joined, List.foldl_append, ← joined, probe, List.foldl_cons, hcomment, List.foldl_cons,
      Joined.add_of_ends (.inl (by simp)) hends, htrim, List.foldl_nil, List.append_assoc]
    rfl
  rw [Build.ofLines, hrun]
  simp [Joined.instructions, trim, trimLeft, trimRight]

/-- Behind a blank line the comment is passed over, and what follows is an instruction. -/
theorem ofLines_blank_probe (hpending : (joined before).pending = cs ++ [' ']) (hends : leadsOn l = false)
    (hidle : isIdle l = false) (htrim : trim l = l) : Build.ofLines (before ++ [] :: probe l) =
      (((joined before).complete.foldl Build.step .empty).step (cs ++ [' '])).step l := by
  have hblank : (joined before).add [] = ⟨(joined before).complete ++ [cs ++ [' ']], []⟩ := by
    rw [Joined.add_of_ends (.inl (by simp [hpending])) (by decide), hpending, show trim [] = [] by decide,
      List.append_nil]
  have hrun : joined (before ++ [] :: probe l) =
      ⟨(joined before).complete ++ [cs ++ [' ']] ++ [l], []⟩ := by
    rw [joined, List.foldl_append, ← joined, List.foldl_cons, hblank, probe, List.foldl_cons,
      Joined.add_of_idle rfl (by decide), List.foldl_cons, Joined.add_of_ends (.inr hidle) hends, htrim]
    rfl
  rw [Build.ofLines, hrun]
  simp [Joined.instructions, trim, trimLeft, trimRight]

end Probes

/-- There are more numbers than ports. -/
theorem exists_new_port (ports : List String) : ∃ n, String.ofList (List.replicate n '1' ++ ['1']) ∉ ports := by
  by_contra hall
  push Not at hall
  have hinj : Function.Injective fun n => String.ofList (List.replicate n '1' ++ ['1']) := by
    intro m n heq
    simpa using congrArg String.length heq
  exact Set.infinite_of_injective_forall_mem (s := {port | port ∈ ports}) hinj hall (List.finite_toSet ports)

/-- An instruction that adds one more port to some. -/
theorem exists_exposing (ports : List String) : ∃ (l : Line) (port : String), (∀ c ∈ l, isLineEnd c = false) ∧
    (trim l = l ∧ leadsOn l = false ∧ isIdle l = false) ∧
    ∀ build : Build, build.ports = ports → (build.step l).ports = ports ++ [port] := by
  obtain ⟨n, hnew⟩ := exists_new_port ports
  have hone : ∀ c ∈ List.replicate n '1' ++ ['1'], c = '1' := by
    simp only [List.mem_append, List.mem_replicate, List.mem_singleton]
    rintro c (⟨-, hc⟩ | hc) <;> exact hc
  -- the number is written with ones, as many as it takes to be new
  have hline : 'E' :: ("XPOSE ".toList ++ List.replicate n '1' ++ ['1']) =
      "EXPOSE".toList ++ ' ' :: (List.replicate n '1' ++ ['1']) := by
    rw [List.append_assoc]
    rfl
  have hplain := plain_of_ends (b := 'E') (c := '1') (by decide) (by decide) (by decide) (by decide)
    ("XPOSE ".toList ++ List.replicate n '1')
  rw [hline] at hplain
  refine ⟨_, String.ofList (List.replicate n '1' ++ ['1']), ?_, hplain, ?_⟩
  · have hword : ∀ c ∈ "EXPOSE".toList, isLineEnd c = false := by decide
    refine List.forall_mem_append.2 ⟨hword, List.forall_mem_cons.2 ⟨by decide, fun c hc => ?_⟩⟩
    rw [hone c hc]
    decide
  · rintro build rfl
    have hdigits : allDigits (List.replicate n '1' ++ ['1']) = true := by
      simp [allDigits, show isDigit '1' = true by decide]
    have hvisible : ∀ c ∈ List.replicate n '1' ++ ['1'], isBlank c = false := by
      intro c hc
      rw [hone c hc]
      decide
    rw [Build.step_expose hdigits hvisible (fun hc => absurd (hone _ hc) (by decide)) hnew]

/-- Within an instruction a blank line makes a difference to the variables or to the ports. -/
theorem exists_noticed {before : List Line} (h : goesOn before = true) : ∃ l : Line,
    (∀ c ∈ l, isLineEnd c = false) ∧ ¬ ((Build.ofLines (before ++ [] :: probe l)).envVars =
        (Build.ofLines (before ++ probe l)).envVars ∧
      (Build.ofLines (before ++ [] :: probe l)).ports = (Build.ofLines (before ++ probe l)).ports) := by
  obtain ⟨cs, hpending⟩ := exists_pending h
  let build : Build := (joined before).complete.foldl Build.step .empty
  -- the line is joined to the instruction, or it is one of another kind after the blank line
  by_cases hkey : keyword (cs ++ [' ']) = "ENV"
  · obtain ⟨l, port, hbreaks, ⟨htrim, hends, hidle⟩, hexposes⟩ := exists_exposing build.ports
    refine ⟨l, hbreaks, ?_⟩
    rintro ⟨-, hports⟩
    have hjoined : (Build.ofLines (before ++ probe l)).ports = build.ports := by
      rw [ofLines_probe hpending hends htrim, Build.ports_step_of_env ((keyword_continued_iff cs l).2 hkey)]
    have happart : (Build.ofLines (before ++ [] :: probe l)).ports = build.ports ++ [port] := by
      rw [ofLines_blank_probe hpending hends hidle htrim]
      exact hexposes _ (Build.ports_step_of_env hkey)
    rw [hjoined, happart] at hports
    simp at hports
  · refine ⟨"ENV".toList ++ ' ' :: "A B".toList, by decide, ?_⟩
    rintro ⟨hvariables, -⟩
    have hjoined : (Build.ofLines (before ++ probe ("ENV".toList ++ ' ' :: "A B".toList))).envVars = build.envVars := by
      rw [ofLines_probe hpending (by decide) (by decide), Build.envVars_step (mt (keyword_continued_iff cs _).1 hkey)]
    have happart : (Build.ofLines (before ++ [] :: probe ("ENV".toList ++ ' ' :: "A B".toList))).envVars =
        build.envVars ++ [⟨"A", "B"⟩] := by
      have hone : envVars (trim "A B".toList) = [⟨"A", "B"⟩] := by decide
      rw [ofLines_blank_probe hpending (by decide) (by decide) (by decide), Build.step_env, Build.envVars_step hkey, hone]
    rw [hjoined, happart] at hvariables
    simp at hvariables

/-! ## Blank lines and comments in a file -/

/-- A blank line or a comment that does not end in a backslash. -/
def IsRemark (l : Line) : Prop :=
  isIdle l = true ∧ l.getLast? ≠ some '\\'

/-- A text with one line more, behind the first ones. -/
def Inserts (before : List Line) (l : Line) (text text' : String) : Prop :=
  ∃ after, lines text.toList = before ++ after ∧ lines text'.toList = before ++ l :: after

/-- Blank lines and comments can be put in where no instruction goes on, and nowhere else: within an instruction
they end it, and what follows is read as an instruction of its own. -/
theorem remarks_inert_iff (r : Registry) (reserved : List String) (fileName front : String) :
    (∀ l text text', IsRemark l → Inserts (lines front.toList) l text text' →
      Format.dockerfile.read r reserved fileName text' = Format.dockerfile.read r reserved fileName text) ↔
      goesOn (lines front.toList) = false := by
  constructor
  · intro hinert
    by_contra hwithin
    obtain ⟨l, hl, hnoticed⟩ := exists_noticed (by simpa using hwithin)
    have hlines : ∀ ls ⊆ [[], "#\\".toList, l],
        lines (String.ofList (unlines (lines front.toList ++ ls))).toList = lines front.toList ++ ls := by
      intro ls hls
      rw [String.toList_ofList]
      refine lines_unlines fun l' hl' => ?_
      rcases List.mem_append.1 hl' with hfront | hprobe
      · exact fun c hc => not_isLineEnd_of_mem_lines hfront hc
      · have hcomment : ∀ c ∈ "#\\".toList, isLineEnd c = false := by decide
        rcases List.mem_cons.1 (hls hprobe) with rfl | hrest
        · simp
        · rcases List.mem_pair.1 hrest with rfl | rfl
          · exact hcomment
          · exact hl
    have hprobe := hlines (probe l) (by simp [probe])
    have hblank := hlines ([] :: probe l) (by simp [probe])
    have hsame := hinert [] _ _ ⟨by decide, by decide⟩ ⟨probe l, hprobe, hblank⟩
    refine hnoticed ?_
    simpa only [Build.ofText_eq, hprobe, hblank] using configuration_of_read hsame
  · rintro hbetween l text text' ⟨hidle, -⟩ ⟨after, htext, htext'⟩
    refine read_congr ?_
    rw [Build.ofText_eq, Build.ofText_eq, htext, htext', Build.ofLines, joined_insert hbetween hidle, Build.ofLines]

/-- A comment between the variables of an instruction. The one behind it is lost. -/
theorem noted_noticed : IsRemark "# note".toList ∧
    Inserts ["ENV A=1 \\".toList] "# note".toList "ENV A=1 \\\n  B=2\n" "ENV A=1 \\\n# note\n  B=2\n" ∧
    Format.dockerfile.read .standard [] "Dockerfile" "ENV A=1 \\\n# note\n  B=2\n" ≠
      Format.dockerfile.read .standard [] "Dockerfile" "ENV A=1 \\\n  B=2\n" := by
  have hall : (Build.ofText "ENV A=1 \\\n  B=2\n").envVars = [⟨"A", "1"⟩, ⟨"B", "2"⟩] := by decide +kernel
  have hfirst : (Build.ofText "ENV A=1 \\\n# note\n  B=2\n").envVars = [⟨"A", "1"⟩] := by decide +kernel
  refine ⟨⟨by decide, by decide⟩, ⟨["  B=2".toList], by decide +kernel⟩, fun hsame => ?_⟩
  have hvariables := (configuration_of_read hsame).1
  rw [hall, hfirst] at hvariables
  simp at hvariables

end Dockerfile
end HostTopology
