import HostTopology.AppHost.Build

/-!
# Layout — the text of an AppHost, piece by piece

The renderer puts separators between lines and blocks. Here the text is a concatenation of pieces
that each end with their own separator:

* `intercalate_concat`, `intercalate_cons_eq_append_join` — separators between parts are separators after
  all parts but the last, and before all but the first;
* `String.Holds` — a text stands somewhere in another;
* `heading` — what stands before the declarations;
* `render_eq` — an AppHost is its heading, its blocks and the line that runs it.
-/

namespace String

theorem intercalate_concat (sep : String) (l : List String) (x : String) :
    sep.intercalate (l ++ [x]) = join (l.map (· ++ sep)) ++ x := by
  induction l with
  | nil => simp
  | cons y l ih =>
    have hne : l ++ [x] ≠ [] := List.append_ne_nil_of_right_ne_nil l (List.cons_ne_nil x [])
    rw [List.cons_append, intercalate_cons_of_ne_nil hne, ih, List.map_cons, join_cons]
    simp only [append_assoc]

/-- Separators between parts are separators before all parts but the first. -/
theorem intercalate_cons_eq_append_join (sep x : String) (l : List String) :
    sep.intercalate (x :: l) = x ++ join (l.map (sep ++ ·)) := by
  induction l generalizing x with
  | nil => simp
  | cons y l ih =>
    rw [intercalate_cons_of_ne_nil (List.cons_ne_nil y l), ih, List.map_cons, join_cons]
    simp only [append_assoc]

/-- A text stands somewhere in another. -/
def Holds (text part : String) : Prop :=
  ∃ before after, text = before ++ part ++ after

variable {text part piece x : String} {l : List String}

theorem holds_middle (before part after : String) : (before ++ part ++ after).Holds part :=
  ⟨before, after, rfl⟩

theorem Holds.trans (h : text.Holds part) (hpiece : part.Holds piece) : text.Holds piece := by
  obtain ⟨before, after, rfl⟩ := h
  obtain ⟨start, rest, rfl⟩ := hpiece
  refine ⟨before ++ start, rest ++ after, ?_⟩
  simp only [append_assoc]

theorem holds_join (h : x ∈ l) : (join l).Holds x := by
  obtain ⟨l₁, l₂, rfl⟩ := List.append_of_mem h
  refine ⟨join l₁, join l₂, ?_⟩
  rw [join_append, join_cons, append_assoc]

theorem holds_intercalate {sep : String} (h : x ∈ l) : (sep.intercalate l).Holds x := by
  obtain ⟨l₁, l₂, rfl⟩ := List.append_of_mem h
  cases l₁ with
  | nil =>
    rw [List.nil_append, intercalate_cons_eq_append_join]
    exact ⟨"", _, by rw [empty_append]⟩
  | cons y l₁ =>
    rw [List.cons_append, intercalate_cons_eq_append_join]
    have hjoin : (join ((l₁ ++ x :: l₂).map (sep ++ ·))).Holds (sep ++ x) :=
      holds_join (List.mem_map_of_mem (List.mem_append_right _ List.mem_cons_self))
    have hall : (y ++ join ((l₁ ++ x :: l₂).map (sep ++ ·))).Holds (join ((l₁ ++ x :: l₂).map (sep ++ ·))) :=
      ⟨y, "", by rw [append_empty]⟩
    exact (hall.trans hjoin).trans ⟨sep, "", by rw [append_empty]⟩

end String

namespace HostTopology
namespace AppHost

variable {r : Registry} {t : Topology} {o : RenderOptions} {ordered : List ResourceInstance}
  {d : Declaration} {s : Statement}

/-- The lines before the first declaration. -/
def heading (o : RenderOptions) (packages : List String) : String :=
  String.join ((sdkLine o :: packageLines packages).map (· ++ "\n")) ++ builderLine ++ "\n\n"

/-- What stands between the heading and the line that runs the application. -/
def blocks (o : RenderOptions) (declarations : List Declaration) : List String :=
  if declarations.isEmpty then [emptyPrompt] else declarations.map (Declaration.render o)

theorem join_spaced (l : List String) :
    String.join ((spaced l).map (· ++ "\n")) = String.join (l.map (· ++ "\n\n")) := by
  induction l with
  | nil => rfl
  | cons b l ih =>
    have hcons : spaced (b :: l) = b :: "" :: spaced l := rfl
    have hbreaks : "\n\n" = "\n" ++ "\n" := rfl
    rw [hcons, List.map_cons, List.map_cons, String.join_cons, String.join_cons, ih, List.map_cons,
      String.join_cons, String.empty_append, hbreaks]
    simp only [String.append_assoc]

theorem render_eq : render r t o ordered =
    heading o (r.requiredPackages (ordered.map ResourceInstance.resourceType))
      ++ String.join ((blocks o (ordered.filterMap (declare? r t))).map (· ++ "\n\n")) ++ runLine := by
  have hbody : (if ((ordered.filterMap (declare? r t)).map (Declaration.render o)).isEmpty
      then [emptyPrompt] else (ordered.filterMap (declare? r t)).map (Declaration.render o)) =
      blocks o (ordered.filterMap (declare? r t)) := by
    rw [blocks, List.isEmpty_map]
  simp only [render, hbody]
  rw [String.intercalate_concat, List.map_append, String.join_append, join_spaced, List.map_cons,
    String.join_cons, heading]
  simp only [List.singleton_append, String.append_assoc]

/-! ## Declarations -/

/-- The line above a declaration. -/
def caption (o : RenderOptions) (d : Declaration) : String :=
  if o.includeComments then "// " ++ d.displayName ++ "\n" else ""

theorem render_declaration_eq :
    d.render o = caption o d ++ "\n".intercalate (d.statements.map (Statement.render o.indent)) := by
  rw [Declaration.render, caption]
  cases o.includeComments <;> simp

/-- A declaration ends with its last statement. -/
theorem exists_render_eq_of_getLast? (h : d.statements.getLast? = some s) :
    ∃ before, d.render o = before ++ s.render o.indent := by
  rcases List.getLast?_eq_some_iff.1 h with ⟨init, hinit⟩
  rw [render_declaration_eq, hinit, List.map_append, List.map_singleton, String.intercalate_concat,
    ← String.append_assoc]
  exact ⟨_, rfl⟩

theorem holds_render (h : d ∈ ordered.filterMap (declare? r t)) : (render r t o ordered).Holds (d.render o) := by
  have hblocks : blocks o (ordered.filterMap (declare? r t)) =
      (ordered.filterMap (declare? r t)).map (Declaration.render o) := by
    rw [blocks, if_neg]
    rw [List.isEmpty_iff]
    exact List.ne_nil_of_mem h
  have hmem : d.render o ++ "\n\n" ∈
      ((ordered.filterMap (declare? r t)).map (Declaration.render o)).map (· ++ "\n\n") :=
    List.mem_map_of_mem (List.mem_map_of_mem h)
  rw [render_eq, hblocks]
  exact ((String.holds_middle ..).trans (String.holds_join hmem)).trans
    ⟨"", "\n\n", by rw [String.empty_append]⟩

/-- Two declarations stand in the text in their order. -/
theorem exists_render_eq {before after : List Declaration} {e : Declaration}
    (h : ordered.filterMap (declare? r t) = before ++ d :: after) (he : e ∈ before) :
    ∃ pre mid post, render r t o ordered = pre ++ e.render o ++ mid ++ d.render o ++ post := by
  have hblocks : blocks o (ordered.filterMap (declare? r t)) =
      before.map (Declaration.render o) ++ d.render o :: after.map (Declaration.render o) := by
    simp [blocks, h]
  have hmem : e.render o ++ "\n\n" ∈ (before.map (Declaration.render o)).map (· ++ "\n\n") :=
    List.mem_map_of_mem (List.mem_map_of_mem he)
  obtain ⟨pre, mid, hpre⟩ := String.holds_join hmem
  rw [render_eq, hblocks, List.map_append, List.map_cons, String.join_append, String.join_cons, hpre]
  refine ⟨heading o (r.requiredPackages (ordered.map ResourceInstance.resourceType)) ++ pre,
    "\n\n" ++ mid, "\n\n" ++ String.join ((after.map (Declaration.render o)).map (· ++ "\n\n")) ++ runLine,
    ?_⟩
  simp only [String.append_assoc]

end AppHost
end HostTopology
