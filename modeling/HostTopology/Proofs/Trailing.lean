import HostTopology.Proofs.Dependencies
import HostTopology.Proofs.Remarks
import HostTopology.Proofs.Spacing
import HostTopology.Proofs.Statements

/-!
# Trailing — comments at the ends of lines

A comment is dropped where only blanks stand before it on its line. Behind code it is read like code.
This file tells which lines can have any comment behind them:

* `barrier`, `length_all_barrier_le` — a text beyond which nothing reaches that begins before it, so that all
  declarations behind it are found;
* `Sketch.size`, `size_ofAppHost` — how many instances and notes there are in what is read;
* `IsLine`, `Around` — a line of a text, and what is left of the text around the line;
* `trailing_comments_ignored_iff` — the lines are those that are blank or comments themselves.
-/

namespace HostTopology
namespace AppHost

open Text Scan

variable {cs : List Char}

/-! ## Comments that are not read as such -/

/-- A text whose first characters close every literal and every type argument. -/
def barrier (cs : List Char) : List Char :=
  '/' :: '"' :: '>' :: '.' :: cs

theorem exists_of_append_cons {d : Char} {x v rest : List Char} (hx : d ∉ x) (h : v ++ d :: cs = x ++ rest) :
    ∃ w, rest = w ++ d :: cs := by
  rcases List.append_eq_append_iff.1 h with ⟨w, rfl, hw⟩ | ⟨w, -, hw⟩
  · cases w with
    | nil => exact ⟨[], hw.symm⟩
    | cons e w =>
      obtain ⟨rfl, -⟩ := List.cons.inj hw
      exact absurd (List.mem_append_right v List.mem_cons_self) hx
  · exact ⟨w, hw⟩

theorem rest_eq {d : Char} {x x' rest rest' : List Char} (hx : d ∉ x) (hx' : d ∉ x') (h : x ++ d :: rest = x' ++ d :: rest') :
    rest = rest' := by
  have hdrop : ∀ {x rest : List Char}, d ∉ x → (x ++ d :: rest).dropWhile (fun c => decide (c ≠ d)) = d :: rest := by
    intro x rest hx
    exact dropWhile_append_of_stops (fun c hc => decide_eq_true fun heq => hx (heq ▸ hc)) (stops_cons.2 (by simp))
  have hrest := congrArg (List.dropWhile fun c => decide (c ≠ d)) h
  rw [hdrop hx, hdrop hx'] at hrest
  exact (List.cons.inj hrest).2

/-- What is read up to a character that the barrier has ends before it, or with it. -/
theorem exists_of_append_barrier {d : Char} {post x v rest : List Char} (pre : List Char) (hpre : d ∉ pre) (hx : d ∉ x)
    (h : v ++ (pre ++ d :: post) = x ++ d :: rest) : rest = post ∨ ∃ w, rest = w ++ (pre ++ d :: post) := by
  by_cases hv : d ∈ v
  -- the first such character of the text is where the reading ends; without one it is that of the barrier
  · obtain ⟨u, w, rfl, hu⟩ := List.eq_append_cons_of_mem hv
    rw [List.append_assoc, List.cons_append] at h
    exact Or.inr ⟨w, (rest_eq hu hx h).symm⟩
  · rw [← List.append_assoc] at h
    exact Or.inl (rest_eq (by simp [hv, hpre]) hx h).symm

/-- What is read before the barrier is left of it. -/
def StaysBefore {α : Type} (cs : List Char) (p : Scan α) : Prop :=
  ∀ v a rest, p (v ++ barrier cs) = some (a, rest) → ∃ w, rest = w ++ barrier cs

namespace StaysBefore

variable {α β : Type} {p : Scan α} {f : α → Scan β} {q : Char → Bool}

theorem bind (hp : StaysBefore cs p) (hf : ∀ a, StaysBefore cs (f a)) : StaysBefore cs (p >>= f) := by
  intro v b rest h
  obtain ⟨a, mid, hmid, hrest⟩ := bind_eq_some.1 h
  obtain ⟨w, rfl⟩ := hp v a mid hmid
  exact hf a w b rest hrest

theorem either {p' : Scan α} (hp : StaysBefore cs p) (hp' : StaysBefore cs p') : StaysBefore cs (either p p') := by
  intro v a rest h
  rcases either_eq_some h with h | h
  · exact hp v a rest h
  · exact hp' v a rest h

theorem pure (a : α) : StaysBefore cs (pure a : Scan α) := by
  intro v b rest h
  exact ⟨v, (Prod.mk.inj (Option.some.inj h)).2.symm⟩

theorem literal {s : String} (hs : '/' ∉ s.toList) : StaysBefore cs (Scan.literal s) :=
  fun _ _ _ h => exists_of_append_cons hs (literal_eq_some.1 h)

theorem run (hq : q '/' = false) : StaysBefore cs (run q) := by
  intro v found rest h
  obtain ⟨htext, hall⟩ := exists_run h
  refine exists_of_append_cons (fun hmem => ?_) htext
  rw [hall _ hmem] at hq
  cases hq

theorem someOf (hq : q '/' = false) : StaysBefore cs (someOf q) := by
  intro v found rest h
  obtain ⟨htext, -, hall⟩ := exists_someOf h
  refine exists_of_append_cons (fun hmem => ?_) htext
  rw [hall _ hmem] at hq
  cases hq

theorem blanks : StaysBefore cs blanks :=
  (run (by decide)).bind fun _ => pure _

theorem word : StaysBefore cs word :=
  (someOf (by decide)).bind fun _ => pure _

theorem binding : StaysBefore cs binding :=
  ((literal (by decide)).either ((literal (by decide)).either (literal (by decide)))).bind fun _ =>
    ((someOf (by decide)).bind fun _ => pure _).bind fun _ => word.bind fun _ => blanks.bind fun _ =>
      (literal (by decide)).bind fun _ => pure _

theorem openArguments : StaysBefore cs openArguments :=
  blanks.bind fun _ => (literal (by decide)).bind fun _ => blanks

end StaysBefore

/-- A type argument can end with the barrier, but no arguments begin there. -/
theorem exists_typeArgument {v rest : List Char} {u : Unit} (h : typeArgument (v ++ barrier cs) = some (u, rest)) :
    rest = '.' :: cs ∨ ∃ w, rest = w ++ barrier cs := by
  simp only [typeArgument, bind_eq_some] at h
  obtain ⟨_, cs₁, hless, found, cs₂, hfound, hmore⟩ := h
  obtain ⟨w, rfl⟩ := StaysBefore.literal (by decide) v _ _ hless
  obtain ⟨htext, -, hall⟩ := exists_someOf hfound
  rw [literal_eq_some.1 hmore] at htext
  have hfound : '>' ∉ found := fun hmem => absurd (hall _ hmem) (by decide)
  exact exists_of_append_barrier ['/', '"'] (by decide) hfound htext

theorem exists_quotedSome {v rest : List Char} {name : String} (h : quotedSome (v ++ barrier cs) = some (name, rest)) :
    ∃ w, rest = w ++ cs := by
  simp only [quotedSome, bind_eq_some] at h
  obtain ⟨_, cs₁, hquote, found, cs₂, hfound, _, cs₃, hquote', hpure⟩ := h
  obtain ⟨w, rfl⟩ := StaysBefore.literal (by decide) v _ _ hquote
  obtain ⟨htext, -, hall⟩ := exists_someOf hfound
  rw [literal_eq_some.1 hquote'] at htext
  obtain rfl := (Prod.mk.inj (Option.some.inj hpure)).2
  have hfound : '"' ∉ found := fun hmem => absurd (hall _ hmem) (by decide)
  rcases exists_of_append_barrier ['/'] (by decide) hfound htext with rfl | ⟨w, rfl⟩
  · exact ⟨['>', '.'], rfl⟩
  · exact ⟨w ++ ['/', '"', '>', '.'], by simp⟩

/-- No declaration that begins before the barrier reaches beyond it. -/
theorem exists_declaration {v rest : List Char} {call : ResourceCall}
    (h : declaration (v ++ barrier cs) = some (call, rest)) : ∃ w, rest = w ++ cs := by
  simp only [declaration, bind_eq_some] at h
  obtain ⟨_, cs₁, hbinding, _, cs₂, hblanks, _, cs₃, hbuilder, _, cs₄, hword, _, cs₅, htype, _, cs₆, hopen, _, cs₇, hname,
    hpure⟩ := h
  obtain rfl := (Prod.mk.inj (Option.some.inj hpure)).2
  -- part after part leaves the barrier, up to the type argument
  obtain ⟨v₁, rfl⟩ := StaysBefore.binding v _ _ hbinding
  obtain ⟨v₂, rfl⟩ := StaysBefore.blanks v₁ _ _ hblanks
  obtain ⟨v₃, rfl⟩ := StaysBefore.literal (by decide) v₂ _ _ hbuilder
  obtain ⟨v₄, rfl⟩ := StaysBefore.word v₃ _ _ hword
  have htype' : cs₅ = '.' :: cs ∨ ∃ w, cs₅ = w ++ barrier cs := by
    rcases either_eq_some htype with htype | htype
    · exact exists_typeArgument htype
    · exact Or.inr ⟨v₄, (Prod.mk.inj (Option.some.inj htype)).2.symm⟩
  rcases htype' with rfl | ⟨v₅, rfl⟩
  · -- no bracket opens after a type argument that ends with the barrier
    cases hopen
  · obtain ⟨v₆, rfl⟩ := StaysBefore.openArguments v₅ _ _ hopen
    exact exists_quotedSome hname

/-- The declaration of a cache, many times on one line. -/
def caches (n : Nat) : List Char :=
  (List.replicate n (stem [] cacheStatement ++ [';'])).flatten

theorem isLineEnd_of_mem_caches {n : Nat} {c : Char} (h : c ∈ caches n) : isLineEnd c = false := by
  obtain ⟨_, htext, hc⟩ := List.mem_flatten.1 h
  rw [List.eq_of_mem_replicate htext] at hc
  have hstatement : ∀ c ∈ stem [] cacheStatement ++ [';'], isLineEnd c = false := by decide
  exact hstatement c hc

theorem length_all_caches (n : Nat) (cs : List Char) :
    (all declaration (caches n ++ cs)).length = n + (all declaration cs).length := by
  have hinert : cacheStatement.IsInert := ⟨cacheStatement_isFramed, fun c hc => absurd hc List.not_mem_nil⟩
  have hindent : IsIndent [] := fun c hc => absurd hc List.not_mem_nil
  have hcall : cacheStatement.resourceCall?.toList.length = 1 := by decide
  induction n with
  | zero => rw [caches, List.replicate_zero, List.flatten_nil, List.nil_append, Nat.zero_add]
  | succ n ih =>
    have htext : caches (n + 1) ++ cs = [] ++ (stem [] cacheStatement ++ ';' :: (caches n ++ cs)) := by
      rw [caches, List.replicate_succ, List.flatten_cons, ← caches]
      simp
    rw [htext, all_declaration (by decide) hindent hinert, List.length_append, hcall, ih]
    omega

/-- Behind the barrier everything is found, whatever stands before it. -/
theorem length_all_barrier_le (cs ys : List Char) :
    (all declaration ys).length ≤ (all declaration (cs ++ barrier ys)).length := by
  have htext : cs ++ barrier ys = (cs ++ "/\">.".toList) ++ ys := by simp [barrier]
  rw [htext]
  refine takes_declaration.length_all_le fun v hv hsuffix call rest hfound => ?_
  obtain ⟨u, hu⟩ := hsuffix
  rcases List.append_eq_append_iff.1 hu with ⟨w, -, rfl⟩ | ⟨w, -, hw⟩
  · rw [List.append_assoc] at hfound
    exact exists_declaration hfound
  · -- no declaration begins within the barrier
    have hmem : v ∈ "/\">.".toList.tails := (List.mem_tails ..).2 ⟨w, hw.symm⟩
    have hcases : v = ['/', '"', '>', '.'] ∨ v = ['"', '>', '.'] ∨ v = ['>', '.'] ∨ v = ['.'] ∨ v = [] := by
      simpa using hmem
    rcases hcases with rfl | rfl | rfl | rfl | rfl
    · exact exists_declaration (v := []) hfound
    · cases hfound
    · cases hfound
    · cases hfound
    · exact absurd rfl hv

end AppHost

/-! ## How much is found -/

namespace Sketch

/-- How many instances and notes there are. -/
def size (s : Sketch) : Nat :=
  s.drafts.length + s.warnings.length

theorem size_warn (s : Sketch) (warning : String) : (s.warn warning).size = s.size + 1 := by
  change s.drafts.length + (s.warnings ++ [warning]).length = s.size + 1
  rw [List.length_append, List.length_singleton, ← Nat.add_assoc, size]

theorem size_modify (s : Sketch) (position : Nat) (change : Draft → Draft) : (s.modify position change).size = s.size := by
  rw [size, size, modify, List.length_modify]

theorem size_addLink (s : Sketch) (source target : Nat) : (s.addLink source target).size = s.size := by
  rw [size, size, drafts_addLink, warnings_addLink]

theorem size_imported (s : Sketch) (reserved : List String) :
    (s.imported reserved).topology.instances.length + (s.imported reserved).warnings.length = s.size := by
  rw [imported, List.length_zipWith, length_freshIds, Nat.min_self, size]

end Sketch

namespace AppHost

open Text Scan

namespace Reading

variable {r : Registry} {s s' : Reading}

/-- A resource is declared, or it is noted that its type is not known. -/
theorem size_addResource (s : Reading) (call : ResourceCall) : (s.addResource r call).sketch.size = s.sketch.size + 1 := by
  rw [addResource]
  split
  · exact Sketch.size_warn ..
  · change (s.sketch.drafts ++ [_]).length + s.sketch.warnings.length = s.sketch.size + 1
    rw [List.length_append, List.length_singleton, Nat.add_right_comm, Sketch.size]

theorem size_addDatabase (s : Reading) (call : DatabaseCall) : (s.addDatabase call).sketch.size = s.sketch.size := by
  rw [addDatabase]
  split
  · rfl
  · exact Sketch.size_modify ..

theorem size_addReferences (s : Reading) (position : Nat) (statement : List Char) :
    (s.addReferences position statement).sketch.size = s.sketch.size :=
  List.foldlRecOn (motive := fun sketch : Sketch => sketch.size = s.sketch.size) _ _ rfl
    fun sketch hsketch source _ => (sketch.size_addLink source position).trans hsketch

/-- No statement declares anything. -/
theorem size_apply {statement : List Char} (h : s.apply statement = .ok s') : s'.sketch.size = s.sketch.size := by
  rcases apply_cases h with rfl | ⟨position, draft, config, -, -, -, rfl⟩
  · rfl
  · exact (Sketch.size_modify ..).trans (size_addReferences ..)

end Reading

theorem size_declaredIn (r : Registry) (code : List Char) :
    (declaredIn r code).sketch.size = (all declaration code).length := by
  -- resources come first, one instance or note for each; databases only change what is there
  have hresources : ∀ (calls : List ResourceCall) (s : Reading),
      (calls.foldl (Reading.addResource r) s).sketch.size = s.sketch.size + calls.length := by
    intro calls
    induction calls with
    | nil => exact fun s => rfl
    | cons call calls ih =>
      intro s
      rw [List.foldl_cons, ih, Reading.size_addResource, List.length_cons]
      omega
  have hsize := hresources (all declaration code) .empty
  rw [declaredIn]
  refine List.foldlRecOn (motive := fun s : Reading => s.sketch.size = (all declaration code).length) _ _ ?_ ?_
  · rw [hsize]
    exact Nat.zero_add _
  · exact fun s hs call _ => (Reading.size_addDatabase s call).trans hs

/-- Every declaration gives an instance or a note, and nothing else does, but for the note that there is none. -/
theorem size_ofAppHost {r : Registry} {text : String} {sketch : Sketch} (h : Sketch.ofAppHost r text = .ok sketch) :
    (all declaration (dropComments text.toList)).length ≤ sketch.size ∧
      sketch.size ≤ (all declaration (dropComments text.toList)).length + 1 := by
  obtain ⟨reading, hreading, hsketch⟩ := Except.bind_eq_ok_iff.1 h
  obtain rfl := Except.ok.inj hsketch
  -- no statement changes how much there is
  have hsize : reading.sketch.size = (all declaration (dropComments text.toList)).length :=
    Except.of_foldlM (P := fun s : Reading => s.sketch.size = (all declaration (dropComments text.toList)).length)
      (fun s statement s' hs happly => (Reading.size_apply happly).trans hs) (size_declaredIn r _) hreading
  split
  · rw [Sketch.size_warn]
    omega
  · omega

/-! ## Comments behind other text -/

/-- A line of a text, with what stands before it and after it. A carriage return before the line feed does not belong
to the line. -/
structure IsLine (before line after : String) : Prop where
  starts : IsLines before.toList
  unbroken : '\n' ∉ line.toList
  ends : ∃ cr tail, after.toList = cr ++ tail ∧ (cr = [] ∨ cr = ['\r']) ∧ IsLineRest tail

variable {r : Registry} {reserved : List String} {fileName : String} {found : Imported}

theorem IsLines.isStretch (h : IsLines cs) (hclosed : IsClosed cs) : IsStretch cs :=
  ⟨hclosed, h.imp_right fun ⟨xs, hxs⟩ => ⟨xs, '\n', hxs, by decide⟩⟩

/-- What is left of a text around one of its lines: code before it, and blank lines that go with a comment. The line
can end with a carriage return. -/
structure Around (before after : String) (code bl cr tail : List Char) : Prop where
  lines : IsLines code
  blank : ∀ c ∈ bl, isBlank c = true
  return_eq : cr = [] ∨ cr = ['\r']
  rest : IsLineRest tail
  dropComments_eq : ∀ cs, dropComments (before.toList ++ cs) = code ++ dropCommentsFrom 0 true (bl ++ cs)
  after_eq : after.toList = cr ++ tail

theorem IsLine.exists_around {before line after : String} (h : IsLine before line after) :
    ∃ code bl cr tail, Around before after code bl cr tail := by
  obtain ⟨cr, tail, hafter, hcr, htail⟩ := h.ends
  obtain ⟨code, bl, hcode, hbl, hkept⟩ := exists_dropComments_lines h.starts
  exact ⟨code, bl, cr, tail, hcode, hbl, hcr, htail, hkept, hafter⟩

namespace Around

variable {before after line : String} {code bl cr tail : List Char} (h : Around before after code bl cr tail)

include h

theorem toList_eq (line : String) :
    (before ++ line ++ after).toList = before.toList ++ ((line.toList ++ cr) ++ tail) := by
  simp [h.after_eq]

theorem not_mem_return (hline : '\n' ∉ line.toList) : '\n' ∉ line.toList ++ cr := by
  rcases h.return_eq with rfl | rfl
  · simpa using hline
  · simpa using hline

theorem dropComments_comment (hline : '\n' ∉ line.toList) (hcomment : isComment line.toList = true) :
    dropComments (before ++ line ++ after).toList = code ++ dropCommentsFrom 0 false tail := by
  rw [h.toList_eq, h.dropComments_eq,
    dropCommentsFrom_of_isComment h.blank (h.not_mem_return hline) (isComment_append hcomment cr) h.rest]

theorem dropComments_code (hline : '\n' ∉ line.toList) (hcode : isRemark line.toList = false) :
    dropComments (before ++ line ++ after).toList =
      code ++ (bl ++ (line.toList ++ (cr ++ dropCommentsFrom 0 false tail))) := by
  have hhead : ∀ c ∈ cr.head?, c ≠ '/' := by
    rcases h.return_eq with rfl | rfl
    · simp
    · simp
  rw [h.toList_eq, h.dropComments_eq, dropCommentsFrom_of_not_isRemark h.blank (h.not_mem_return hline)
    (isRemark_append_of_not hcode hhead) h.rest, List.append_assoc]

/-- A blank line is left out if a comment follows, and else it stays. -/
theorem exists_dropComments_blank (hblank : ∀ c ∈ line.toList, isBlank c = true) :
    ∃ gap gap' rest, (∀ c ∈ gap, isBlank c = true) ∧ (∀ c ∈ gap', isBlank c = true) ∧
      dropComments (before ++ line ++ after).toList = code ++ (gap ++ rest) ∧
      dropCommentsFrom 0 false tail = gap' ++ rest := by
  obtain ⟨stop, rest, htail, hstop, hrest⟩ := h.rest.exists_append
  have hreturn : ∀ c ∈ cr, isBlank c = true := by
    rcases h.return_eq with rfl | rfl
    all_goals decide
  have hall : ∀ c ∈ bl ++ (line.toList ++ (cr ++ stop)), isBlank c = true :=
    List.forall_mem_append.2 ⟨h.blank, List.forall_mem_append.2 ⟨hblank, List.forall_mem_append.2 ⟨hreturn, hstop⟩⟩⟩
  obtain ⟨gap, hgap, hdrop⟩ := exists_dropCommentsFrom_blank hall rest
  refine ⟨gap, stop, dropCommentsFrom 0 true rest, hgap, hstop, ?_, hrest⟩
  rw [h.toList_eq, h.dropComments_eq, ← hdrop, htail]
  simp

theorem isStretch (hopen : isOpen (dropComments before.toList) = false) : IsStretch code := by
  obtain ⟨gap, hgap, hdrop⟩ := exists_dropCommentsFrom_blank h.blank []
  have hbefore : dropComments before.toList = code ++ gap := by
    have hlines := h.dropComments_eq []
    rwa [hdrop, List.append_nil, dropCommentsFrom, List.append_nil] at hlines
  rw [hbefore] at hopen
  exact h.lines.isStretch ((isClosed_of_isOpen hopen).of_append_blank hgap)

end Around

/-- A line that says nothing can have a comment behind it. -/
theorem ofAppHost_of_isRemark {before line after comment : String} (hline : IsLine before line after)
    (hclosed : line.toList.all isBlank = true → isOpen (dropComments before.toList) = false)
    (hremark : isRemark line.toList = true) (hcomment : '\n' ∉ comment.toList) :
    Sketch.ofAppHost r (before ++ (line ++ " //" ++ comment) ++ after) = Sketch.ofAppHost r (before ++ line ++ after) := by
  obtain ⟨code, bl, cr, tail, haround⟩ := hline.exists_around
  have hbreak : '\n' ∉ (line ++ " //" ++ comment).toList := by simp [hline.unbroken, hcomment]
  have htext : (line ++ " //" ++ comment).toList = line.toList ++ (' ' :: '/' :: '/' :: comment.toList) := by simp
  rw [isRemark, Bool.or_eq_true] at hremark
  rcases hremark with hblank | hremark
  · -- the blank line goes with the comment, but its end stays
    have hcomment : isComment (line ++ " //" ++ comment).toList = true := by
      rw [htext, isComment_append_of_isBlank (List.all_eq_true.1 hblank)]
      rfl
    obtain ⟨gap, gap', rest, hgap, hgap', hold, htail⟩ := haround.exists_dropComments_blank (List.all_eq_true.1 hblank)
    have hnew := haround.dropComments_comment hbreak hcomment
    rw [htail] at hnew
    exact Sketch.ofAppHost_gap hgap hgap' (haround.isStretch (hclosed hblank)) hold hnew r
  · have hnew := haround.dropComments_comment hbreak (htext ▸ isComment_append hremark _)
    rw [Sketch.ofAppHost, Sketch.ofAppHost, hnew, haround.dropComments_comment hline.unbroken hremark]

/-- The declarations in a comment are read. -/
theorem exists_comment_le {before line after : String} (hline : IsLine before line after)
    (hcode : isRemark line.toList = false) (n : Nat) :
    ∃ comment : String, (∀ c ∈ comment.toList, isLineEnd c = false) ∧
      n ≤ (all declaration (dropComments (before ++ (line ++ " //" ++ comment) ++ after).toList)).length := by
  obtain ⟨code, bl, cr, tail, haround⟩ := hline.exists_around
  obtain ⟨comment, hcomment⟩ : ∃ comment : String, comment.toList = "\">.".toList ++ caches n :=
    ⟨String.ofList _, String.toList_ofList⟩
  have hends : ∀ c ∈ comment.toList, isLineEnd c = false := by
    rw [hcomment]
    exact List.forall_mem_append.2 ⟨by decide, fun c hc => isLineEnd_of_mem_caches hc⟩
  refine ⟨comment, hends, ?_⟩
  have htext : (line ++ " //" ++ comment).toList = line.toList ++ (' ' :: '/' :: '/' :: comment.toList) := by simp
  have hbreak : '\n' ∉ (line ++ " //" ++ comment).toList := by
    have hmem : '\n' ∉ comment.toList := fun h => absurd (hends _ h) (by decide)
    simp [hline.unbroken, hmem]
  have hremark : isRemark (line ++ " //" ++ comment).toList = false :=
    htext ▸ isRemark_append_of_not hcode (by simp)
  -- the second slash begins the barrier that the comment goes on with
  have hdrop : dropComments (before ++ (line ++ " //" ++ comment) ++ after).toList =
      code ++ (bl ++ (line.toList ++ " /".toList)) ++ barrier (caches n ++ (cr ++ dropCommentsFrom 0 false tail)) := by
    rw [haround.dropComments_code hbreak hremark, htext, hcomment]
    simp [barrier]
  have hle := length_all_barrier_le (code ++ (bl ++ (line.toList ++ " /".toList)))
    (caches n ++ (cr ++ dropCommentsFrom 0 false tail))
  rw [length_all_caches] at hle
  rw [hdrop]
  omega

/-- Exactly the lines that say nothing can have any comment behind them. A blank line must not be in a literal. -/
theorem trailing_comments_ignored_iff {before line after : String} (hline : IsLine before line after)
    (hclosed : line.toList.all isBlank = true → isOpen (dropComments before.toList) = false)
    (hread : Format.appHost.read r reserved fileName (before ++ line ++ after) = .ok found) :
    (∀ comment : String, (∀ c ∈ comment.toList, isLineEnd c = false) →
      Format.appHost.read r reserved fileName (before ++ (line ++ " //" ++ comment) ++ after) = .ok found) ↔
      isRemark line.toList = true := by
  have hsize : ∀ {text : String}, Format.appHost.read r reserved fileName text = .ok found →
      (all declaration (dropComments text.toList)).length ≤ found.topology.instances.length + found.warnings.length ∧
        found.topology.instances.length + found.warnings.length ≤
          (all declaration (dropComments text.toList)).length + 1 := by
    intro text h
    obtain ⟨sketch, hsketch, rfl⟩ := Format.read_eq_ok_iff.1 h
    rw [Sketch.size_imported]
    exact size_ofAppHost hsketch
  constructor
  · intro hall
    by_contra hcode
    -- behind code, a comment can declare more than was found without it
    obtain ⟨comment, hcomment, hle⟩ := exists_comment_le hline (Bool.not_eq_true _ ▸ hcode)
      ((all declaration (dropComments (before ++ line ++ after).toList)).length + 2)
    have hbefore := (hsize hread).2
    have hafter := (hsize (hall comment hcomment)).1
    omega
  · intro hremark comment hcomment
    have hbreak : '\n' ∉ comment.toList := fun h => absurd (hcomment _ h) (by decide)
    rw [Format.read_appHost] at hread ⊢
    rwa [ofAppHost_of_isRemark hline hclosed hremark hbreak]

theorem isLine_lineFeed {before line after : String} (hbefore : IsLines before.toList) (hline : '\n' ∉ line.toList) :
    IsLine before line ("\n" ++ after) :=
  ⟨hbefore, hline, [], '\n' :: after.toList, by rw [String.toList_append]; rfl, Or.inl rfl, Or.inr ⟨_, rfl⟩⟩

/-- In the middle of a statement, an empty line can have any comment behind it. -/
theorem gap_comments_ignored :
    ∃ found, Format.appHost.read .standard [] "" ("var cache =\n" ++ "" ++ ("\n" ++ "builder.AddRedis(\"cache\");")) =
        .ok found ∧
      ∀ comment : String, (∀ c ∈ comment.toList, isLineEnd c = false) →
        Format.appHost.read .standard [] "" ("var cache =\n" ++ ("" ++ " //" ++ comment) ++
          ("\n" ++ "builder.AddRedis(\"cache\");")) = .ok found := by
  have hline : IsLine "var cache =\n" "" ("\n" ++ "builder.AddRedis(\"cache\");") :=
    isLine_lineFeed (Or.inr ⟨"var cache =".toList, rfl⟩) (by decide)
  obtain ⟨found, hfound⟩ : ∃ found, Format.appHost.read .standard [] ""
      ("var cache =\n" ++ "" ++ ("\n" ++ "builder.AddRedis(\"cache\");")) = .ok found :=
    ⟨_, Format.read_eq rfl⟩
  exact ⟨found, hfound, (trailing_comments_ignored_iff hline (by decide) hfound).2 rfl⟩

def cacheLine : String :=
  "var cache = builder.AddRedis(\"cache\");"

def cacheReplicas : String :=
  "cache.WithReplicas(2);"

/-- The names of the instances, with the numbers of replicas. -/
def replicas (text : String) : Except NumeralError (List (String × Option Int)) :=
  (Format.appHost.read .standard [] "" text).map fun found =>
    found.topology.instances.map fun i => (i.name, i.config.replicas)

/-- Behind a statement, a declaration in a comment is read, and a remark hides what the next statement is about. -/
theorem cache_comments_not_ignored :
    IsLine "" cacheLine ("\n" ++ cacheReplicas) ∧ isOpen (dropComments cacheLine.toList) = false ∧
      (∀ c ∈ " a cache".toList, isLineEnd c = false) ∧
      (∀ c ∈ " var old = builder.AddKafka(\"old\");".toList, isLineEnd c = false) ∧
      replicas ("" ++ cacheLine ++ ("\n" ++ cacheReplicas)) = .ok [("cache", some 2)] ∧
      replicas ("" ++ (cacheLine ++ " //" ++ " a cache") ++ ("\n" ++ cacheReplicas)) = .ok [("cache", none)] ∧
      replicas ("" ++ (cacheLine ++ " //" ++ " var old = builder.AddKafka(\"old\");") ++ ("\n" ++ cacheReplicas)) =
        .ok [("cache", some 2), ("old", none)] :=
  ⟨isLine_lineFeed (Or.inl rfl) (by decide), by decide, by decide, by decide, by decide +kernel,
    by decide +kernel, by decide +kernel⟩

end AppHost
end HostTopology
