import HostTopology.Proofs.Fragments
import HostTopology.Proofs.Messages
import HostTopology.Proofs.Remarks

/-!
# Placeholder — an AppHost that errors stand in the way of

The placeholder lists the messages about errors in comments, one for each message. A message of several
lines leaves its comment at its first line end. This file tells when the placeholder declares nothing:

* `codeLines_renderPlaceholder` — its lines of code: three of its own, and what messages add to them;
* `read_of_unmarked` — where no line of code declares a resource, nothing is read;
* `placeholder_declares_nothing_iff` — nothing is declared exactly if all messages can follow a comment,
  and they can if no text of the topology has a line end.
-/

namespace HostTopology
namespace AppHost

open Text Scan

variable {isEnd : Char → Bool} {o : RenderOptions} {r : Registry} {cs : List Char} {text : String}

/-! ## Lines of the placeholder -/

/-- A choice of what ends a line: blank characters, the line feed among them, but not the space. -/
structure IsLineEnding (isEnd : Char → Bool) : Prop where
  lineFeed : isEnd '\n' = true
  space : isEnd ' ' = false
  blank : ∀ c, isEnd c = true → isBlank c = true

theorem isLineEnding_lineFeed : IsLineEnding (· = '\n') where
  lineFeed := rfl
  space := rfl
  blank := by
    intro c hc
    rw [of_decide_eq_true hc]
    decide

theorem isLineEnding_isBreak : IsLineEnding Yaml.isBreak where
  lineFeed := rfl
  space := rfl
  blank := by
    intro c hc
    simp only [Yaml.isBreak, Bool.or_eq_true, decide_eq_true_eq] at hc
    rcases hc with (((rfl | rfl) | rfl) | rfl) | rfl
    all_goals decide

theorem IsLineEnding.not_end (h : IsLineEnding isEnd) (hcs : ∀ c ∈ cs, isBlank c = false ∨ c = ' ') :
    ∀ c ∈ cs, isEnd c = false := by
  intro c hc
  rcases hcs c hc with hblank | rfl
  · rw [Bool.eq_false_iff]
    intro hend
    rw [h.blank c hend] at hblank
    cases hblank
  · exact h.space

/-- What a message adds to the lines of code. -/
def laterLines (isEnd : Char → Bool) (message : String) : List (List Char) :=
  (splitAll isEnd message.toList).tail.filter fun line => !isRemark line

theorem codeLines_numbered (h : IsLineEnding isEnd) (n : Nat) (messages : List String) :
    ((numbered n messages).flatMap fun line => codeLines isEnd line.toList) =
      messages.flatMap (laterLines isEnd) := by
  induction messages generalizing n with
  | nil => rfl
  | cons message messages ih =>
    have htext : ("// " ++ toString n ++ ". " ++ message).toList =
        '/' :: '/' :: (' ' :: ((toString n).toList ++ ['.', ' '])) ++ message.toList := by
      have hslashes : "// ".toList = ['/', '/', ' '] := rfl
      have hdot : ". ".toList = ['.', ' '] := rfl
      simp only [String.toList_append, hslashes, hdot, List.append_assoc, List.cons_append, List.nil_append]
    have hlabel : ∀ c ∈ '/' :: '/' :: (' ' :: ((toString n).toList ++ ['.', ' '])), isEnd c = false := by
      have hdigits : ∀ c ∈ (toString n).toList, isBlank c = false ∨ c = ' ' :=
        fun c hc => Or.inl (isBlank_of_isAlphanum (isAlphanum_toString n c hc))
      refine h.not_end ?_
      simp only [List.forall_mem_cons, List.forall_mem_append, List.not_mem_nil, false_imp_iff, implies_true, and_true]
      exact ⟨by decide, by decide, by decide, hdigits, by decide, by decide⟩
    rw [numbered, List.flatMap_cons, List.flatMap_cons, ih (n + 1), htext, codeLines_comment hlabel, laterLines]

theorem codeLines_renderPlaceholder (h : IsLineEnding isEnd) (messages : List String) :
    codeLines isEnd (renderPlaceholder o messages).toList =
      codeLines isEnd (sdkLine o).toList ++
        (messages.flatMap (laterLines isEnd) ++ [builderLine.toList, runLine.toList]) := by
  have hremark : ∀ line ∈ ["", "// ⚠️ VALIDATION ERRORS - Fix these issues before generating code:", "//",
      "// Fix the issues above and the code will be generated automatically.", "// Your resources will appear here"],
      codeLines isEnd line.toList = [] := by
    have hlines : ∀ line ∈ ["", "// ⚠️ VALIDATION ERRORS - Fix these issues before generating code:", "//",
        "// Fix the issues above and the code will be generated automatically.", "// Your resources will appear here"],
        (∀ c ∈ line.toList, isBlank c = false ∨ c = ' ') ∧ isRemark line.toList = true := by decide
    intro line hline
    exact codeLines_of_isRemark (h.not_end (hlines line hline).1) (hlines line hline).2
  have hcode : ∀ line ∈ [builderLine, runLine], codeLines isEnd line.toList = [line.toList] := by
    have hlines : ∀ line ∈ [builderLine, runLine],
        (∀ c ∈ line.toList, isBlank c = false ∨ c = ' ') ∧ isRemark line.toList = false := by decide
    intro line hline
    exact codeLines_of_not_isRemark (h.not_end (hlines line hline).1) (hlines line hline).2
  simp only [List.forall_mem_cons, List.not_mem_nil, false_imp_iff, implies_true, and_true] at hremark hcode
  rw [renderPlaceholder, codeLines_intercalate h.lineFeed]
  simp only [List.flatMap_append, codeLines_numbered h, List.flatMap_cons, List.flatMap_nil, spaced, hremark, hcode,
    List.append_nil, List.nil_append, List.append_assoc, List.cons_append]

/-! ## Reading -/

theorem foldl_addDatabase_empty (calls : List DatabaseCall) :
    calls.foldl Reading.addDatabase .empty = .empty := by
  induction calls with
  | nil => rfl
  | cons call calls ih =>
    have hcall : Reading.addDatabase .empty call = .empty := rfl
    rw [List.foldl_cons, hcall, ih]

/-- Without variables no statement is about an instance. -/
theorem foldlM_apply_empty (statements : List (List Char)) :
    statements.foldlM Reading.apply .empty = .ok .empty := by
  induction statements with
  | nil => rfl
  | cons statement statements ih =>
    have happly : Reading.apply .empty statement = .ok .empty := by
      rw [Reading.apply]
      cases owner statement <;> rfl
    rw [List.foldlM_cons, happly]
    exact ih

/-- Where no line declares a resource, nothing is read. -/
theorem read_of_unmarked (h : ¬ "builder.Add".toList <:+: dropComments text.toList) (reserved : List String)
    (fileName : String) : Format.appHost.read r reserved fileName text = .ok ⟨.empty, [nothingFound]⟩ := by
  have hnone : all declaration (dropComments text.toList) = [] := bears_declaration.all_eq_nil h
  have hstart : (all databaseDeclaration (dropComments text.toList)).foldl Reading.addDatabase
      ((all declaration (dropComments text.toList)).foldl (Reading.addResource r) .empty) = .empty := by
    rw [hnone]
    exact foldl_addDatabase_empty _
  rw [Format.read_appHost, Sketch.ofAppHost]
  simp only [hstart, foldlM_apply_empty]
  rfl

/-! ## What is told in comments -/

/-- The lines of an AppHost that declares nothing. -/
def bareLines : List (List Char) :=
  [sdkLine .standard, builderLine, runLine].map String.toList

theorem codeLines_placeholder_iff (h : IsLineEnding isEnd) {messages : List String} :
    codeLines isEnd (renderPlaceholder .standard messages).toList = bareLines ↔
      ∀ message ∈ messages, IsCommentable isEnd message.toList := by
  have hsdk : codeLines isEnd (sdkLine .standard).toList = [(sdkLine .standard).toList] :=
    codeLines_of_not_isRemark (h.not_end (by decide)) (by decide)
  have hbare : codeLines isEnd (renderPlaceholder .standard messages).toList = bareLines ↔
      messages.flatMap (laterLines isEnd) = [] := by
    have hlist : bareLines = [(sdkLine .standard).toList] ++ ([] ++ [builderLine.toList, runLine.toList]) := rfl
    rw [codeLines_renderPlaceholder h, hsdk, hlist, List.append_cancel_left_eq, List.append_cancel_right_eq]
  rw [hbare, List.flatMap_eq_nil_iff]
  exact forall₂_congr fun message _ => isCommentable_iff.symm

/-- A placeholder whose messages stay in comments declares nothing. -/
theorem read_placeholder {messages : List String}
    (h : ∀ message ∈ messages, IsCommentable Yaml.isBreak message.toList) (reserved : List String) (fileName : String) :
    Format.appHost.read r reserved fileName (renderPlaceholder .standard messages) =
      .ok ⟨.empty, [nothingFound]⟩ := by
  -- the reader ends lines at line feeds only
  have hcommentable : ∀ message ∈ messages, IsCommentable (· = '\n') message.toList := fun message hmessage =>
    (h message hmessage).of_imp (fun c hc => by rw [of_decide_eq_true hc]; rfl) isLineEnding_isBreak.blank
  have hlines := (codeLines_placeholder_iff isLineEnding_lineFeed).2 hcommentable
  refine read_of_unmarked (fun hpart => ?_) reserved fileName
  obtain ⟨line, hline, hmark⟩ := exists_codeLine_of_infix (by decide) ⟨'b', by decide, by decide⟩ hpart
  rw [hlines] at hline
  have hunmarked : ∀ line ∈ bareLines, contains "builder.Add".toList line = false := by decide
  exact contains_eq_false_iff.1 (hunmarked line hline) hmark

end AppHost

open AppHost Validation

variable {r : Registry} {o : RenderOptions} {t : Topology} {a : Artifacts}

theorem exists_report_of_isBlocked (hok : t.compile r o = .ok a) (hblocked : a.isBlocked = true) :
    ∃ v, t.validate r = .ok v ∧ a = .blocked o (v.blocking.map Finding.message) := by
  rcases Except.bind_eq_ok_iff.1 hok with ⟨v, hv, hok⟩
  have hv := Except.mapError_eq_ok_iff.1 hv
  cases hvalid : v.isValid with
  | false =>
    rw [hvalid] at hok
    exact ⟨v, hv, (Except.ok.inj hok).symm⟩
  | true =>
    rw [hvalid, if_pos rfl] at hok
    rcases Except.bind_eq_ok_iff.1 hok with ⟨s, -, hok⟩
    rcases Except.bind_eq_ok_iff.1 hok with ⟨texts, -, hok⟩
    rw [← Except.ok.inj hok, isBlocked_ofOrdered] at hblocked
    cases hblocked

/-- The AppHost of a topology with errors declares nothing, and nothing is read from it, exactly if every
message says nothing after its first line. The messages have one line if the texts of the topology have. -/
theorem placeholder_declares_nothing_iff (hok : t.compile .standard .standard = .ok a)
    (hblocked : a.isBlocked = true) :
    ((codeLines Yaml.isBreak a.appHost.toList = bareLines ∧ ∀ reserved fileName,
        Format.appHost.read .standard reserved fileName a.appHost = .ok ⟨.empty, [nothingFound]⟩) ↔
      ∀ message ∈ a.blockingErrors, IsCommentable Yaml.isBreak message.toList) ∧
    (t.IsOneLine → ∀ message ∈ a.blockingErrors, IsCommentable Yaml.isBreak message.toList) := by
  obtain ⟨v, hv, rfl⟩ := exists_report_of_isBlocked hok hblocked
  refine ⟨⟨fun h => ?_, fun h => ?_⟩, fun hline message hmessage => ?_⟩
  · exact (codeLines_placeholder_iff isLineEnding_isBreak).1 h.1
  · exact ⟨(codeLines_placeholder_iff isLineEnding_isBreak).2 h, read_placeholder h⟩
  · rcases List.mem_map.1 hmessage with ⟨f, hf, rfl⟩
    exact isCommentable_of_not_isSep (isOneLine_of_mem_blocking standard_isOneLine hline hv f hf)

/-- A cache with a name that is no identifier. -/
def misnamed (name : String) : Topology where
  instances := [⟨"cache", "redis", name, none, .empty⟩]
  connections := []

def misnamedMessages (name : String) : List String :=
  [quote name ++ " is not a valid C# identifier", "name must be a valid C# identifier",
    "name must be a valid C# identifier"]

theorem misnamed_compile : ∀ name ∈ ["1st", "x\nvar cache = builder.AddRedis(\"cache\");"],
    (misnamed name).compile .standard .standard = .ok (.blocked .standard (misnamedMessages name)) := by
  intro name hname
  have hcycles : checkCycles .standard (misnamed name) = [] :=
    checkCycles_eq_nil_iff.2 ((Topology.cycles_eq_nil_iff _).2 acyclic_nil)
  rw [Topology.compile, Topology.validate, hcycles]
  clear hcycles
  revert name
  decide +kernel

/-- A name of one line. -/
theorem misnamed_declares_nothing : ∃ a, (misnamed "1st").compile .standard .standard = .ok a ∧
    a.isBlocked = true ∧ (misnamed "1st").IsOneLine ∧ codeLines Yaml.isBreak a.appHost.toList = bareLines ∧
      ∀ reserved fileName,
        Format.appHost.read .standard reserved fileName a.appHost = .ok ⟨.empty, [nothingFound]⟩ := by
  have hok := misnamed_compile "1st" (by simp)
  have hline : (misnamed "1st").IsOneLine := by
    intro i hi
    obtain rfl := List.mem_singleton.1 hi
    exact ⟨by decide, by decide, by decide, by decide⟩
  have hdeclares := placeholder_declares_nothing_iff hok rfl
  exact ⟨_, hok, rfl, hline, hdeclares.1.2 (hdeclares.2 hline)⟩

/-- The second line of a name is code, and a resource is read from it. -/
theorem misnamed_declares :
    ∃ a, (misnamed "x\nvar cache = builder.AddRedis(\"cache\");").compile .standard .standard = .ok a ∧
      a.isBlocked = true ∧ ((Format.appHost.read .standard [] "AppHost.cs" a.appHost).map fun found =>
        found.topology.instances.map ResourceInstance.name) = .ok ["cache"] := by
  refine ⟨_, misnamed_compile "x\nvar cache = builder.AddRedis(\"cache\");" (by simp), rfl, ?_⟩
  have hread := Format.read_appHost .standard [] "AppHost.cs"
    (renderPlaceholder .standard (misnamedMessages "x\nvar cache = builder.AddRedis(\"cache\");"))
  rw [Artifacts.blocked, hread, Sketch.ofAppHost, renderPlaceholder, String.toList_intercalate]
  decide +kernel

end HostTopology
