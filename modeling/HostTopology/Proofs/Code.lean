import HostTopology.Proofs.Layout
import HostTopology.Proofs.Pieces

/-!
# Code — an AppHost without its comments

Without comments an AppHost is its first lines, the statements of its declarations, each after a gap,
and the line that runs it. This file defines

* `Segment` — a statement with the gap before it;
* `lead`, `code` — the first lines and the whole;

and proves that this is what the reader sees (`dropComments_render`), where it cuts it
(`splitAll_code`), and which declarations it finds (`all_declaration_code`).
-/

namespace HostTopology
namespace AppHost

open Text Scan

variable {α : Type} {p : Scan α} {T : List Char → Prop} {indent gap ys : List Char} {o : RenderOptions}
  {packages : List String} {gs : List Segment} {d : Declaration} {ds : List Declaration}

/-! ## Segments -/

/-- A statement and what stands before it. -/
structure Segment where
  gap : List Char
  statement : Statement

namespace Segment

structure IsPlain (g : Segment) : Prop where
  gap : IsGap g.gap
  statement : g.statement.IsPlain

structure IsInert (g : Segment) : Prop where
  gap : IsGap g.gap
  statement : g.statement.IsInert

/-- A segment up to its semicolon. -/
def piece (indent : List Char) (g : Segment) : List Char :=
  g.gap ++ stem indent g.statement

def text (indent : List Char) (g : Segment) : List Char :=
  g.piece indent ++ [';']

end Segment

/-- The statements of one declaration. -/
def segmentsAfter (gap : List Char) : List Statement → List Segment
  | [] => []
  | s :: rest => ⟨gap, s⟩ :: rest.map (Segment.mk ['\n'])

theorem map_statement_segmentsAfter (gap : List Char) (statements : List Statement) :
    (segmentsAfter gap statements).map Segment.statement = statements := by
  cases statements with
  | nil => rfl
  | cons s rest => simp [segmentsAfter, Function.comp_def]

theorem mem_segmentsAfter (hgap : IsGap gap) {statements : List Statement} {g : Segment}
    (hg : g ∈ segmentsAfter gap statements) : IsGap g.gap ∧ g.statement ∈ statements := by
  cases statements with
  | nil => exact absurd hg List.not_mem_nil
  | cons s rest =>
    rcases List.mem_cons.1 hg with rfl | hg
    · exact ⟨hgap, List.mem_cons_self⟩
    · rcases List.mem_map.1 hg with ⟨s', hs', rfl⟩
      have hbreak : IsGap ['\n'] := by decide
      exact ⟨hbreak, List.mem_cons_of_mem s hs'⟩

theorem flatMap_segmentsAfter (indent : String) (gap : List Char) (s : Statement) (rest : List Statement) :
    (segmentsAfter gap (s :: rest)).flatMap (Segment.text indent.toList) =
      gap ++ ("\n".intercalate ((s :: rest).map (Statement.render indent))).toList := by
  -- the first statement stands after the gap, the others after a line end
  induction rest generalizing gap s with
  | nil => simp [segmentsAfter, Segment.text, Segment.piece, toList_statement_render]
  | cons s' rest ih =>
    have hne : (s' :: rest).map (Statement.render indent) ≠ [] := by simp
    have hbreak : "\n".toList = ['\n'] := rfl
    have hrest := ih ['\n'] s'
    have hsegments : segmentsAfter gap (s :: s' :: rest) = ⟨gap, s⟩ :: segmentsAfter ['\n'] (s' :: rest) := rfl
    have hrenders : (s :: s' :: rest).map (Statement.render indent) =
        s.render indent :: (s' :: rest).map (Statement.render indent) := rfl
    have htext : Segment.text indent.toList ⟨gap, s⟩ = gap ++ (s.render indent).toList := by
      rw [Segment.text, Segment.piece, toList_statement_render, List.append_assoc]
    rw [hsegments, List.flatMap_cons, hrest, htext, hrenders, String.intercalate_cons_of_ne_nil hne,
      String.toList_append, String.toList_append, hbreak]
    simp only [List.append_assoc]

theorem tidy_text (hindent : IsIndent indent) {g : Segment} (hg : g.IsInert) (ys : List Char) :
    Tidy (g.text indent) ys :=
  Tidy.append (tidy_stem hg.gap hindent hg.statement _) (tidy_of_not_mem_break (by decide) ys)

theorem tidy_segments (hindent : IsIndent indent) (hgs : ∀ g ∈ gs, g.IsInert) (ys : List Char) :
    Tidy (gs.flatMap (Segment.text indent)) ys := by
  induction gs with
  | nil => exact tidy_of_not_mem_break List.not_mem_nil ys
  | cons g gs ih =>
    have htail := ih fun g' hg' => hgs g' (List.mem_cons_of_mem g hg')
    exact Tidy.append (tidy_text hindent (hgs g List.mem_cons_self) _) htail

/-! ## The first lines -/

/-- What the lines of the packages are made of. -/
def isHeadingChar (c : Char) : Bool :=
  c.isAlphanum || ['#', ':', ' ', '.', '@', '\n'].contains c

def directives (o : RenderOptions) (packages : List String) : List Char :=
  (String.join ((sdkLine o :: packageLines packages).map (· ++ "\n"))).toList

def builderPiece : List Char :=
  "var builder = DistributedApplication.CreateBuilder(args)".toList

/-- The first lines up to their only semicolon. -/
def lead (o : RenderOptions) (packages : List String) : List Char :=
  directives o packages ++ builderPiece

theorem toList_heading : (heading o packages).toList = lead o packages ++ ';' :: ['\n', '\n'] := by
  have hline : builderLine.toList = builderPiece ++ [';'] := by
    have hsplit : builderLine = "var builder = DistributedApplication.CreateBuilder(args)" ++ ";" := by decide
    rw [hsplit, String.toList_append]
    rfl
  have hbreaks : "\n\n".toList = ['\n', '\n'] := rfl
  rw [heading, String.toList_append, String.toList_append, hline, hbreaks, lead, directives]
  simp only [List.append_assoc, List.cons_append, List.nil_append]

theorem lt_of_isHeadingChar {c : Char} (h : isHeadingChar c = true) : c.toNat < 128 := by
  simp only [isHeadingChar, Bool.or_eq_true, List.contains_iff_mem] at h
  rcases h with h | h
  · exact lt_of_isAlphanum h
  · revert c
    decide

theorem clear_directives (h : ∀ c ∈ directives o packages, isHeadingChar c = true) :
    Clear (directives o packages) := by
  intro c hc
  have hall : ∀ n : Fin 128, isHeadingChar (Char.ofNat n) = true → isDelimiter (Char.ofNat n) = false := by
    decide
  exact of_ascii (P := fun c => isHeadingChar c = true → isDelimiter c = false) hall
    (lt_of_isHeadingChar (h c hc)) (h c hc)

theorem not_mem_directives (h : ∀ c ∈ directives o packages, isHeadingChar c = true) {ch : Char}
    (hch : isHeadingChar ch = false) : ch ∉ directives o packages := by
  intro hmem
  rw [h ch hmem] at hch
  cases hch

/-- The builder is a variable of its own, but no resource. -/
theorem Assigns.skips_lead (h : Assigns p T) (hT : ¬ T " DistributedApplication.CreateBuilder".toList)
    (hchars : ∀ c ∈ directives o packages, isHeadingChar c = true) (ys : List Char) :
    Skips p (lead o packages ++ [';']) ys := by
  have hleft : Clear (directives o packages ++ "var builder ".toList) := by
    have hvar : Clear "var builder ".toList := by decide
    exact (clear_directives hchars).append hvar
  have hright : Clear " DistributedApplication.CreateBuilder".toList := by decide
  have hlsign : '=' ∉ directives o packages ++ "var builder ".toList := by
    rw [List.mem_append, not_or]
    exact ⟨not_mem_directives hchars (by decide), by decide⟩
  -- three stretches: up to the bracket, its argument, and the semicolon
  have hsegment := h.skips_of_not hleft hright (by decide : isDelimiter '(' = true) hlsign (by decide) hT
    (("args".toList ++ [')']) ++ (([] ++ [';']) ++ ys))
  have hargs : Skips p ("args".toList ++ [')']) (([] ++ [';']) ++ ys) :=
    h.opens.skips (by decide) (by decide) _
  have hend : Skips p ([] ++ [';']) ys := h.opens.skips (by decide) (by decide) _
  have htext : lead o packages ++ [';'] = ((directives o packages ++ "var builder ".toList) ++
      '=' :: " DistributedApplication.CreateBuilder".toList ++ ['(']) ++
        (("args".toList ++ [')']) ++ ([] ++ [';'])) := by
    have hpiece : builderPiece = "var builder ".toList ++ ('=' ::
        (" DistributedApplication.CreateBuilder".toList ++ '(' :: ("args".toList ++ [')']))) := rfl
    simp only [lead, hpiece, List.append_assoc, List.cons_append, List.nil_append]
  rw [htext]
  exact Skips.append hsegment (Skips.append hargs hend)

theorem exists_directives (o : RenderOptions) (packages : List String) :
    ∃ rest, directives o packages = '#' :: rest := by
  have hsdk : "#:sdk Aspire.AppHost.Sdk@".toList = '#' :: ":sdk Aspire.AppHost.Sdk@".toList := rfl
  have hline : (sdkLine o).toList = '#' :: (":sdk Aspire.AppHost.Sdk@".toList ++ o.aspireVersion.toList) := by
    change ("#:sdk Aspire.AppHost.Sdk@" ++ o.aspireVersion).toList = _
    rw [String.toList_append, hsdk, List.cons_append]
  rw [directives, List.map_cons, String.join_cons, String.toList_append, String.toList_append, hline]
  exact ⟨_, rfl⟩

/-- The first lines are about no variable. -/
theorem owner_lead (o : RenderOptions) (packages : List String) : owner (lead o packages) = none := by
  rcases exists_directives o packages with ⟨rest, hrest⟩
  have hstop : Stops isBlank ('#' :: (rest ++ builderPiece)) := stops_cons.2 (by decide)
  rw [lead, hrest, List.cons_append, owner, bind_apply (blanks_of_stops hstop)]
  rfl

/-! ## Dropping the comments -/

/-- A declaration whose label stands on one line. -/
structure Declaration.IsLabelled (d : Declaration) : Prop where
  label : '\n' ∉ d.displayName.toList
  nonempty : d.statements ≠ []

/-- A declaration that is read back: its statements are plain. -/
structure Declaration.IsPlain (d : Declaration) : Prop extends d.IsLabelled where
  statements : ∀ s ∈ d.statements, s.IsPlain

/-- A declaration of which the reader sees the statements that it has, and no others. -/
structure Declaration.IsInert (d : Declaration) : Prop extends d.IsLabelled where
  statements : ∀ s ∈ d.statements, s.IsInert

theorem Declaration.IsPlain.inert (hd : d.IsPlain) : d.IsInert :=
  ⟨hd.toIsLabelled, fun s hs => (hd.statements s hs).inert⟩

/-- The segments of a declaration, which stands after an empty line. -/
def Declaration.segments (d : Declaration) : List Segment :=
  segmentsAfter ['\n', '\n'] d.statements

theorem isGap_breaks : IsGap ['\n', '\n'] := by decide

theorem Declaration.IsPlain.segments (hd : d.IsPlain) : ∀ g ∈ d.segments, g.IsPlain := by
  intro g hg
  rcases mem_segmentsAfter isGap_breaks hg with ⟨hgap, hmem⟩
  exact ⟨hgap, hd.statements _ hmem⟩

theorem Declaration.IsInert.segments (hd : d.IsInert) : ∀ g ∈ d.segments, g.IsInert := by
  intro g hg
  rcases mem_segmentsAfter isGap_breaks hg with ⟨hgap, hmem⟩
  exact ⟨hgap, hd.statements _ hmem⟩

theorem isIndent_indent (o : RenderOptions) : IsIndent o.indent.toList := by
  intro c hc
  rw [RenderOptions.indent, String.toList_ofList] at hc
  exact List.eq_of_mem_replicate hc

/-- The statements of a declaration as text. -/
theorem exists_segments_eq (hd : d.IsLabelled) (indent : List Char) : ∃ text, d.segments.flatMap (Segment.text indent) =
    '\n' :: '\n' :: 'v' :: text := by
  rcases List.exists_cons_of_ne_nil hd.nonempty with ⟨s, rest, hs⟩
  rw [Declaration.segments, hs, segmentsAfter, List.flatMap_cons]
  exact ⟨_, rfl⟩

theorem toList_render_declaration (hd : d.IsLabelled) : ∃ text,
    d.segments.flatMap (Segment.text o.indent.toList) = '\n' :: '\n' :: text ∧
      (d.render o).toList = (caption o d).toList ++ text := by
  rcases List.exists_cons_of_ne_nil hd.nonempty with ⟨s, rest, hs⟩
  refine ⟨("\n".intercalate (d.statements.map (Statement.render o.indent))).toList, ?_, ?_⟩
  · rw [Declaration.segments, hs, flatMap_segmentsAfter]
    rfl
  · rw [render_declaration_eq, String.toList_append]

/-- With a comment above it or without, a declaration leaves its statements. -/
theorem dropCommentsFrom_declaration (hd : d.IsInert) (ys : List Char) :
    '\n' :: dropCommentsFrom 0 true ('\n' :: ((d.render o).toList ++ ys)) =
      d.segments.flatMap (Segment.text o.indent.toList) ++ dropCommentsFrom 0 false ys := by
  rcases toList_render_declaration (o := o) hd.toIsLabelled with ⟨text, hsegments, hrender⟩
  rcases exists_segments_eq hd.toIsLabelled o.indent.toList with ⟨text', hstart⟩
  have htidy : Tidy text ys := by
    have hall := tidy_segments (isIndent_indent o) hd.segments ys
    rw [hsegments] at hall
    exact hall.tail.tail
  have hcomment : isComment (text ++ ys) = false := by
    rcases List.cons.inj (hsegments.symm.trans hstart) with ⟨-, hcons⟩
    rcases List.cons.inj hcons with ⟨-, rfl⟩
    exact isComment_of_not_mem (d := 'v') List.not_mem_nil (by decide) (text' ++ ys)
  have hline : isComment ('\n' :: (text ++ ys)) = false := by
    have h := hcomment
    rw [isComment] at h ⊢
    rwa [List.dropWhile_cons_of_pos (by decide)]
  -- a label goes and leaves the line end that follows it
  have hlabel : dropCommentsFrom 0 true ('\n' :: ((d.render o).toList ++ ys)) =
      dropCommentsFrom 0 false ('\n' :: (text ++ ys)) := by
    rw [hrender, caption]
    cases o.includeComments with
    | false => exact dropCommentsFrom_of_not_isComment hline
    | true =>
      have hslashes : "// ".toList = ['/', '/', ' '] := rfl
      have hbreak : "\n".toList = ['\n'] := rfl
      have hnot : '\n' ∉ ' ' :: d.displayName.toList := by
        rw [List.mem_cons, not_or]
        exact ⟨by decide, hd.label⟩
      have hdrop := dropCommentsFrom_comment hnot (text ++ ys)
      simp only [if_true, String.toList_append, hslashes, hbreak, List.append_assoc, List.cons_append,
        List.nil_append] at hdrop ⊢
      exact hdrop
  rw [hlabel, dropCommentsFrom_cons, decide_eq_true rfl, dropCommentsFrom_of_not_isComment hcomment,
    htidy.dropCommentsFrom, hsegments]
  rfl

theorem dropCommentsFrom_declarations (hds : ∀ d ∈ ds, d.IsInert) :
    '\n' :: dropCommentsFrom 0 true ('\n' :: ((ds.flatMap fun d => (d.render o).toList ++ ['\n', '\n']) ++
      runLine.toList)) =
    (ds.flatMap Declaration.segments).flatMap (Segment.text o.indent.toList) ++
      (['\n', '\n'] ++ runLine.toList) := by
  -- each declaration starts after an empty line, whether a comment was dropped or not
  induction ds with
  | nil =>
    have hrun : '\n' :: dropCommentsFrom 0 true ('\n' :: runLine.toList) =
        ['\n', '\n'] ++ runLine.toList := by decide
    exact hrun
  | cons d ds ih =>
    have hrest := ih fun d' hd' => hds d' (List.mem_cons_of_mem d hd')
    have hdeclaration := dropCommentsFrom_declaration (o := o) (hds d List.mem_cons_self)
      ('\n' :: '\n' :: ((ds.flatMap fun d => (d.render o).toList ++ ['\n', '\n']) ++ runLine.toList))
    rw [dropCommentsFrom_cons, decide_eq_true rfl, hrest] at hdeclaration
    rw [List.flatMap_cons, List.flatMap_cons, List.flatMap_append]
    simp only [List.append_assoc, List.cons_append, List.nil_append] at hdeclaration ⊢
    exact hdeclaration

/-! ## The code -/

/-- First lines, segments, and the line that runs the application. -/
def code (o : RenderOptions) (packages : List String) (gs : List Segment) (gap : List Char) : List Char :=
  (lead o packages ++ [';']) ++ (gs.flatMap (Segment.text o.indent.toList) ++ (gap ++ runLine.toList))

theorem toList_join_blocks (o : RenderOptions) (ds : List Declaration) :
    (String.join ((ds.map (Declaration.render o)).map (· ++ "\n\n"))).toList =
      ds.flatMap fun d => (d.render o).toList ++ ['\n', '\n'] := by
  have hbreaks : "\n\n".toList = ['\n', '\n'] := rfl
  rw [String.toList_join, List.map_map, List.flatMap_map]
  refine List.flatMap_congr fun d _ => ?_
  rw [Function.comp_apply, String.toList_append, hbreaks]

/-- The first lines hold no comment. -/
theorem dropComments_lead (hchars : ∀ c ∈ directives o packages, isHeadingChar c = true) (ys : List Char) :
    dropComments ((lead o packages ++ [';']) ++ '\n' :: ys) =
      (lead o packages ++ [';']) ++ '\n' :: dropCommentsFrom 0 true ys := by
  have hslash : '/' ∉ lead o packages := by
    rw [lead, List.mem_append, not_or]
    exact ⟨not_mem_directives hchars (by decide), by decide⟩
  have hstart : isComment ((lead o packages ++ [';']) ++ '\n' :: ys) = false := by
    rw [List.append_assoc]
    exact isComment_of_not_mem hslash (by decide) ('\n' :: ys)
  have htidy : Tidy (lead o packages ++ [';']) ('\n' :: ys) :=
    Tidy.append (tidy_of_not_mem hslash (by decide) _) (tidy_of_not_mem_break (by decide) _)
  rw [dropComments, dropCommentsFrom_of_not_isComment hstart, htidy.dropCommentsFrom, dropCommentsFrom_cons,
    decide_eq_true rfl]

/-- What the reader sees of an AppHost. -/
theorem exists_dropComments_render {r : Registry} {t : Topology} {ordered : List ResourceInstance}
    (hchars : ∀ c ∈ directives o (r.requiredPackages (ordered.map ResourceInstance.resourceType)),
      isHeadingChar c = true) (hds : ∀ d ∈ ordered.filterMap (declare? r t), d.IsInert) :
    ∃ gap, IsGap gap ∧ dropComments (render r t o ordered).toList =
      code o (r.requiredPackages (ordered.map ResourceInstance.resourceType))
        ((ordered.filterMap (declare? r t)).flatMap Declaration.segments) gap := by
  rw [render_eq]
  -- only the declarations and the packages matter from here on
  generalize ordered.filterMap (declare? r t) = ds at hds
  generalize r.requiredPackages (ordered.map ResourceInstance.resourceType) = packages at hchars
  have hlead := dropComments_lead hchars
  cases ds with
  | nil =>
    -- nothing is declared, and the prompt is a comment
    have hprompt : dropCommentsFrom 0 true ('\n' :: (emptyPrompt.toList ++ ('\n' :: '\n' :: runLine.toList))) =
        '\n' :: '\n' :: runLine.toList := by decide
    refine ⟨['\n', '\n', '\n'], by decide, ?_⟩
    have hblocks : (String.join ((blocks o []).map (· ++ "\n\n"))).toList =
        emptyPrompt.toList ++ ['\n', '\n'] := by
      have hbreaks : "\n\n".toList = ['\n', '\n'] := rfl
      change (String.join [emptyPrompt ++ "\n\n"]).toList = _
      rw [String.join_cons, String.toList_append, String.toList_append, hbreaks]
      exact List.append_nil _
    have htext := hlead ('\n' :: (emptyPrompt.toList ++ ('\n' :: '\n' :: runLine.toList)))
    rw [hprompt] at htext
    rw [String.toList_append, String.toList_append, toList_heading, hblocks, code, List.flatMap_nil,
      List.flatMap_nil]
    simp only [List.append_assoc, List.cons_append, List.nil_append] at htext ⊢
    exact htext
  | cons d ds =>
    refine ⟨['\n', '\n'], isGap_breaks, ?_⟩
    have hdeclarations := dropCommentsFrom_declarations (o := o) hds
    have hblocks : blocks o (d :: ds) = (d :: ds).map (Declaration.render o) := rfl
    have htext := hlead ('\n' :: (((d :: ds).flatMap fun d => (d.render o).toList ++ ['\n', '\n']) ++
      runLine.toList))
    rw [hdeclarations] at htext
    rw [String.toList_append, String.toList_append, toList_heading, hblocks, toList_join_blocks, code]
    simp only [List.append_assoc, List.cons_append, List.nil_append] at htext ⊢
    exact htext

/-! ## What is read in the code -/

/-- The line that runs the application, up to its semicolon. -/
def runPiece : List Char :=
  "builder.Build().Run()".toList

theorem splitAll_segments (indent : List Char) (gs : List Segment) (ys : List Char) :
    splitAll (· = ';') (gs.flatMap (Segment.text indent) ++ ys) =
      gs.flatMap (fun g => splitAll (· = ';') (g.piece indent)) ++ splitAll (· = ';') ys := by
  induction gs with
  | nil => rfl
  | cons g gs ih =>
    calc splitAll (· = ';') ((g :: gs).flatMap (Segment.text indent) ++ ys)
        = splitAll (· = ';') (g.piece indent ++ ';' :: (gs.flatMap (Segment.text indent) ++ ys)) := by
          simp [Segment.text]
      _ = splitAll (· = ';') (g.piece indent) ++ splitAll (· = ';') (gs.flatMap (Segment.text indent) ++ ys) :=
          splitAll_append_sep (decide_eq_true rfl) _ _
      _ = (g :: gs).flatMap (fun g => splitAll (· = ';') (g.piece indent)) ++ splitAll (· = ';') ys := by
          rw [ih, List.flatMap_cons, List.append_assoc]

theorem splitAll_of_not_mem {xs : List Char} (h : ';' ∉ xs) : splitAll (· = ';') xs = [xs] := by
  refine splitAll_of_not_isSep fun c hc => decide_eq_false ?_
  rintro rfl
  exact h hc

/-- The pieces of an AppHost: each segment gives its own. -/
theorem splitAll_code (hchars : ∀ c ∈ directives o packages, isHeadingChar c = true) (gs : List Segment)
    (hgap : IsGap gap) : splitAll (· = ';') (code o packages gs gap) =
      lead o packages :: (gs.flatMap (fun g => splitAll (· = ';') (g.piece o.indent.toList)) ++
        [gap ++ runPiece, []]) := by
  -- neither the first lines nor the last one have another semicolon
  have hlead : ';' ∉ lead o packages := by
    rw [lead, List.mem_append, not_or]
    exact ⟨not_mem_directives hchars (by decide), by decide⟩
  have hrun : ';' ∉ gap ++ runPiece := by
    rw [List.mem_append, not_or]
    exact ⟨hgap.not_mem (by decide), by decide⟩
  have hsemicolon : decide (';' = ';') = true := decide_eq_true rfl
  have htext : code o packages gs gap = lead o packages ++ ';' :: (gs.flatMap (Segment.text o.indent.toList) ++
      ((gap ++ runPiece) ++ ';' :: [])) := by
    have hline : runLine.toList = runPiece ++ [';'] := rfl
    simp only [code, hline, List.append_assoc, List.cons_append, List.nil_append]
  rw [htext, splitAll_append_sep hsemicolon, splitAll_of_not_mem hlead, splitAll_segments,
    splitAll_append_sep hsemicolon, splitAll_of_not_mem hrun]
  rfl

/-- What is found in each statement is found in all of them. -/
theorem all_segments {read : Statement → Option α} (h : ∀ gap s, IsGap gap → s.IsInert →
    ∀ ys, all p (gap ++ (stem indent s ++ ';' :: ys)) = (read s).toList ++ all p ys)
    (hgs : ∀ g ∈ gs, g.IsInert) (ys : List Char) :
    all p (gs.flatMap (Segment.text indent) ++ ys) =
      (gs.map Segment.statement).filterMap read ++ all p ys := by
  induction gs with
  | nil => rfl
  | cons g gs ih =>
    have hg := hgs g List.mem_cons_self
    have hrest := ih fun g' hg' => hgs g' (List.mem_cons_of_mem g hg')
    have hsegment := h g.gap g.statement hg.gap hg.statement (gs.flatMap (Segment.text indent) ++ ys)
    rw [List.flatMap_cons, Segment.text, Segment.piece, List.map_cons, List.filterMap_cons]
    simp only [List.append_assoc, List.cons_append, List.nil_append] at hsegment ⊢
    rw [hsegment, hrest]
    cases read g.statement <;> rfl

theorem Assigns.all_code (h : Assigns p T) (hT : ¬ T " DistributedApplication.CreateBuilder".toList)
    (hrun : all p runLine.toList = []) (hchars : ∀ c ∈ directives o packages, isHeadingChar c = true)
    {read : Statement → Option α} (hread : ∀ gap s, IsGap gap → s.IsInert →
      ∀ ys, all p (gap ++ (stem o.indent.toList s ++ ';' :: ys)) = (read s).toList ++ all p ys)
    (hgs : ∀ g ∈ gs, g.IsInert) (hgap : IsGap gap) :
    all p (code o packages gs gap) = (gs.map Segment.statement).filterMap read := by
  rw [code, all_of_skips (h.skips_lead hT hchars _), all_segments hread hgs,
    all_of_skips (h.skips_of_isBlank hgap.isBlank _), hrun, List.append_nil]

theorem all_declaration_code (hchars : ∀ c ∈ directives o packages, isHeadingChar c = true)
    (hgs : ∀ g ∈ gs, g.IsInert) (hgap : IsGap gap) :
    all declaration (code o packages gs gap) = (gs.map Segment.statement).filterMap Statement.resourceCall? := by
  have hwords : (∀ c ∈ "DistributedApplication".toList, c.isAlphanum = true) ∧
      (∀ c ∈ "CreateBuilder".toList, c.isAlphanum = true) ∧
        "DistributedApplication".toList ≠ "builder".toList := by decide
  have hnot := not_isResourceText hwords.1 hwords.2.1 hwords.2.2
  exact assigns_declaration.all_code hnot (by decide) hchars
    (fun _ _ hgap hs => all_declaration hgap (isIndent_indent o) hs) hgs hgap

theorem all_databaseDeclaration_code (hchars : ∀ c ∈ directives o packages, isHeadingChar c = true)
    (hgs : ∀ g ∈ gs, g.IsInert) (hgap : IsGap gap) :
    all databaseDeclaration (code o packages gs gap) =
      (gs.map Segment.statement).filterMap Statement.databaseCall? := by
  have hwords : (∀ c ∈ "DistributedApplication".toList, c.isAlphanum = true) ∧
      (∀ c ∈ "CreateBuilder".toList, c.isAlphanum = true) ∧
        "CreateBuilder".toList ≠ "AddDatabase".toList := by decide
  have hnot := not_isDatabaseText hwords.1 hwords.2.1 hwords.2.2
  exact assigns_databaseDeclaration.all_code hnot (by decide) hchars
    (fun _ _ hgap hs => all_databaseDeclaration hgap (isIndent_indent o) hs) hgs hgap

end AppHost
end HostTopology
