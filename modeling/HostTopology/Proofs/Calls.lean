import HostTopology.AppHost.Reader
import HostTopology.Proofs.Characters
import HostTopology.Proofs.Scanning
import Mathlib.Data.List.Basic

/-!
# Calls — where the calls of an AppHost can begin

The reader searches a text for declarations and for calls, at every position. This file tells what
has to follow a position at which one is found, and so which stretches of a text hold none:

* `Assigns p T` — what `p` finds is a word, an equality sign and a text in `T`, up to an opening
  bracket, with no delimiter on the way;
* `Calls p m` — what `p` finds begins with the method `m` and an opening bracket.
-/

namespace HostTopology
namespace AppHost

open Text Scan

variable {α : Type} {p : Scan α} {T : List Char → Prop} {m : List Char} {cs seg xs ys rest : List Char}
  {d : Char}

/-! ## Delimiters -/

def isDelimiter (c : Char) : Bool :=
  c = '(' || c = ')' || c = '<' || c = '>' || c = '"' || c = ';'

theorem isDelimiter_of_opening (h : d = '(' ∨ d = '<') : isDelimiter d = true := by
  rcases h with rfl | rfl
  all_goals decide

/-- No call begins with one of these. -/
def isClosing (c : Char) : Bool :=
  c = ')' || c = '>' || c = '"' || c = ';'

def Clear (xs : List Char) : Prop :=
  ∀ c ∈ xs, isDelimiter c = false

instance (xs : List Char) : Decidable (Clear xs) :=
  inferInstanceAs (Decidable (∀ c ∈ xs, isDelimiter c = false))

theorem Clear.append (hx : Clear xs) (hy : Clear ys) : Clear (xs ++ ys) :=
  List.forall_mem_append.2 ⟨hx, hy⟩

theorem clear_cons {c : Char} : Clear (c :: xs) ↔ isDelimiter c = false ∧ Clear xs :=
  List.forall_mem_cons

/-- Two texts that agree up to their first delimiter. -/
theorem Clear.append_inj {xs' ys' : List Char} {d' : Char} (hx : Clear xs) (hx' : Clear xs')
    (hd : isDelimiter d = true) (hd' : isDelimiter d' = true)
    (h : xs ++ d :: ys = xs' ++ d' :: ys') : xs = xs' ∧ d = d' ∧ ys = ys' := by
  induction xs generalizing xs' with
  | nil =>
    cases xs' with
    | nil =>
      rcases List.cons.inj h with ⟨rfl, rfl⟩
      exact ⟨rfl, rfl, rfl⟩
    | cons c xs' =>
      rcases List.cons.inj h with ⟨rfl, -⟩
      rw [(clear_cons.1 hx').1] at hd
      cases hd
  | cons c xs ih =>
    -- one text cannot have its delimiter where the other is clear
    cases xs' with
    | nil =>
      rcases List.cons.inj h with ⟨rfl, -⟩
      rw [(clear_cons.1 hx).1] at hd'
      cases hd'
    | cons c' xs' =>
      rcases List.cons.inj h with ⟨rfl, htail⟩
      rcases ih (clear_cons.1 hx).2 (clear_cons.1 hx').2 htail with ⟨rfl, hrest⟩
      exact ⟨rfl, hrest⟩

theorem clear_of_isWord (h : ∀ c ∈ xs, isWord c = true) : Clear xs := by
  intro c hc
  by_contra hdelim
  have hword := h c hc
  simp only [isDelimiter, Bool.not_eq_false, Bool.or_eq_true, decide_eq_true_eq] at hdelim
  rcases hdelim with ((((rfl | rfl) | rfl) | rfl) | rfl) | rfl
  all_goals exact absurd hword (by decide)

theorem clear_of_isBlank (h : ∀ c ∈ xs, isBlank c = true) : Clear xs := by
  intro c hc
  by_contra hdelim
  have hblank := h c hc
  simp only [isDelimiter, Bool.not_eq_false, Bool.or_eq_true, decide_eq_true_eq] at hdelim
  rcases hdelim with ((((rfl | rfl) | rfl) | rfl) | rfl) | rfl
  all_goals exact absurd hblank (by decide)

/-! ## Assignments -/

/-- A new variable, before its equality sign. -/
structure IsBinder (xs : List Char) : Prop where
  clear : Clear xs
  starts : xs ≠ [] ∧ Stops isBlank xs

/-- What `p` finds assigns a text in `T` that goes up to an opening bracket. -/
def Assigns (p : Scan α) (T : List Char → Prop) : Prop :=
  ∀ cs found, p cs = some found → ∃ binder text d post,
    cs = binder ++ '=' :: (text ++ d :: post) ∧ IsBinder binder ∧ Clear text ∧ (d = '(' ∨ d = '<') ∧ T text

theorem exists_binding {name : String} (h : binding cs = some (name, rest)) :
    ∃ binder, cs = binder ++ '=' :: rest ∧ IsBinder binder := by
  simp only [binding, bind_eq_some] at h
  rcases h with ⟨_, cs₁, hkey, _, cs₂, hblanks, w, cs₃, hword, _, cs₄, hblanks', _, cs₅, hsign, hpure⟩
  rcases exists_someBlanks hblanks with ⟨bl, rfl, -, hbl⟩
  rcases exists_word hword with ⟨rfl, -, hw⟩
  rcases exists_blanks hblanks' with ⟨bl', rfl, hbl'⟩
  obtain rfl := literal_eq_some.1 hsign
  rcases Prod.mk.inj (Option.some.inj hpure) with ⟨rfl, rfl⟩
  -- whichever the keyword, it is made of letters
  have hkeyword : ∃ key : List Char, cs = key ++ (bl ++ (w.toList ++ (bl' ++ ("=".toList ++ cs₅)))) ∧
      (∀ c ∈ key, c.isAlphanum = true) ∧ key ≠ [] := by
    rcases either_eq_some hkey with hkey | hkey
    · exact ⟨"var".toList, literal_eq_some.1 hkey, by decide, by decide⟩
    · rcases either_eq_some hkey with hkey | hkey
      · exact ⟨"let".toList, literal_eq_some.1 hkey, by decide, by decide⟩
      · exact ⟨"const".toList, literal_eq_some.1 hkey, by decide, by decide⟩
  rcases hkeyword with ⟨key, rfl, hkeyall, hkeyne⟩
  refine ⟨key ++ (bl ++ (w.toList ++ bl')), by simp, ?_, ?_⟩
  · refine Clear.append (clear_of_isWord fun c hc => isWord_of_isAlphanum (hkeyall c hc)) ?_
    exact (clear_of_isBlank hbl).append ((clear_of_isWord hw).append (clear_of_isBlank hbl'))
  · rcases List.exists_cons_of_ne_nil hkeyne with ⟨c, key, rfl⟩
    refine ⟨by simp, ?_⟩
    rw [List.cons_append, stops_cons]
    exact isBlank_of_isAlphanum (hkeyall c List.mem_cons_self)

/-- What follows the variable of a new resource, up to a bracket. -/
def IsResourceText (text : List Char) : Prop :=
  ∃ bl w bl', text = bl ++ ("builder.Add".toList ++ (w ++ bl')) ∧ (∀ c ∈ bl, isBlank c = true) ∧
    (∀ c ∈ w, isWord c = true) ∧ ∀ c ∈ bl', isBlank c = true

/-- What follows the variable of a new database, up to a bracket. -/
def IsDatabaseText (text : List Char) : Prop :=
  ∃ bl w bl', text = bl ++ (w ++ (".AddDatabase".toList ++ bl')) ∧ (∀ c ∈ bl, isBlank c = true) ∧
    (∀ c ∈ w, isWord c = true) ∧ ∀ c ∈ bl', isBlank c = true

theorem exists_openArguments {u : Unit} (h : openArguments cs = some (u, rest)) :
    ∃ bl post, cs = bl ++ '(' :: post ∧ ∀ c ∈ bl, isBlank c = true := by
  simp only [openArguments, bind_eq_some] at h
  rcases h with ⟨_, cs₁, hblanks, _, cs₂, hopen, -⟩
  rcases exists_blanks hblanks with ⟨bl, rfl, hbl⟩
  obtain rfl := literal_eq_some.1 hopen
  exact ⟨bl, cs₂, rfl, hbl⟩

theorem assigns_declaration : Assigns declaration IsResourceText := by
  rintro cs ⟨call, rest⟩ h
  simp only [declaration, bind_eq_some] at h
  obtain ⟨_, cs₁, hbinding, _, cs₂, hblanks, _, cs₃, hbuilder, w, cs₄, hword, _, cs₅, htype, _, cs₆, hopen,
    -⟩ := h
  rcases exists_binding hbinding with ⟨binder, rfl, hbinder⟩
  rcases exists_blanks hblanks with ⟨bl, rfl, hbl⟩
  obtain rfl := literal_eq_some.1 hbuilder
  rcases exists_word hword with ⟨rfl, -, hw⟩
  have hbuild : Clear "builder.Add".toList := by decide
  rcases either_eq_some htype with htype | htype
  -- with a class name the text ends at `<`, else at the bracket of the arguments
  · simp only [typeArgument, bind_eq_some] at htype
    rcases htype with ⟨_, cs₇, hless, -⟩
    obtain rfl := literal_eq_some.1 hless
    refine ⟨binder, bl ++ ("builder.Add".toList ++ (w.toList ++ [])), '<', cs₇, by simp, hbinder, ?_,
      Or.inr rfl, bl, w.toList, [], rfl, hbl, hw, by simp⟩
    rw [List.append_nil]
    exact (clear_of_isBlank hbl).append (hbuild.append (clear_of_isWord hw))
  · rcases Prod.mk.inj (Option.some.inj htype) with ⟨-, rfl⟩
    rcases exists_openArguments hopen with ⟨bl', post, rfl, hbl'⟩
    refine ⟨binder, bl ++ ("builder.Add".toList ++ (w.toList ++ bl')), '(', post, by simp, hbinder, ?_,
      Or.inl rfl, bl, w.toList, bl', rfl, hbl, hw, hbl'⟩
    exact (clear_of_isBlank hbl).append
      (hbuild.append ((clear_of_isWord hw).append (clear_of_isBlank hbl')))

theorem assigns_databaseDeclaration : Assigns databaseDeclaration IsDatabaseText := by
  rintro cs ⟨call, rest⟩ h
  simp only [databaseDeclaration, bind_eq_some] at h
  rcases h with ⟨_, cs₁, hbinding, _, cs₂, hblanks, w, cs₃, hword, _, cs₄, hadd, _, cs₅, hopen, -⟩
  rcases exists_binding hbinding with ⟨binder, rfl, hbinder⟩
  rcases exists_blanks hblanks with ⟨bl, rfl, hbl⟩
  rcases exists_word hword with ⟨rfl, -, hw⟩
  obtain rfl := literal_eq_some.1 hadd
  rcases exists_openArguments hopen with ⟨bl', post, rfl, hbl'⟩
  have hdatabase : Clear ".AddDatabase".toList := by decide
  refine ⟨binder, bl ++ (w.toList ++ (".AddDatabase".toList ++ bl')), '(', post, by simp, hbinder, ?_,
    Or.inl rfl, bl, w.toList, bl', rfl, hbl, hw, hbl'⟩
  exact (clear_of_isBlank hbl).append
    ((clear_of_isWord hw).append (hdatabase.append (clear_of_isBlank hbl')))

/-! ## Calls of one method -/

/-- What `p` finds begins with a method and an opening bracket. -/
def Calls (p : Scan α) (m : List Char) : Prop :=
  ∀ cs found, p cs = some found → ∃ bl post, cs = m ++ (bl ++ '(' :: post) ∧ ∀ c ∈ bl, isBlank c = true

/-- Whatever is read after them, the method and the bracket come first. -/
theorem calls_method (method : String) (f : Scan α) :
    Calls (do Scan.literal method; openArguments; f) method.toList := by
  rintro cs ⟨a, rest⟩ h
  simp only [bind_eq_some] at h
  rcases h with ⟨_, cs₁, hmethod, _, cs₂, hopen, -⟩
  obtain rfl := literal_eq_some.1 hmethod
  rcases exists_openArguments hopen with ⟨bl, post, rfl, hbl⟩
  exact ⟨bl, post, rfl, hbl⟩

theorem calls_referenceCall : Calls referenceCall ".WithReference".toList :=
  calls_method ".WithReference" _

theorem calls_pairCall (method : String) : Calls (pairCall method) method.toList :=
  calls_method method _

theorem calls_replicasCall : Calls replicasCall ".WithReplicas".toList :=
  calls_method ".WithReplicas" _

/-! ## Stretches without calls -/

/-- What `p` finds goes on without delimiters up to an opening bracket. -/
def Opens (p : Scan α) : Prop :=
  ∀ cs found, p cs = some found → ∃ head d post,
    cs = head ++ d :: post ∧ Clear head ∧ (d = '(' ∨ d = '<')

theorem Assigns.opens (h : Assigns p T) : Opens p := by
  intro cs found hp
  rcases h cs found hp with ⟨binder, text, d, post, rfl, hbinder, htext, hd, -⟩
  refine ⟨binder ++ '=' :: text, d, post, by simp, hbinder.clear.append ?_, hd⟩
  exact clear_cons.2 ⟨by decide, htext⟩

theorem Calls.opens (h : Calls p m) (hm : Clear m) : Opens p := by
  intro cs found hp
  rcases h cs found hp with ⟨bl, post, rfl, hbl⟩
  exact ⟨m ++ bl, '(', post, by simp, hm.append (clear_of_isBlank hbl), Or.inl rfl⟩

theorem exists_first_delimiter (h : ∃ c ∈ xs, isDelimiter c = true) :
    ∃ head d post, xs = head ++ d :: post ∧ Clear head ∧ isDelimiter d = true := by
  induction xs with
  | nil =>
    rcases h with ⟨c, hc, -⟩
    exact absurd hc List.not_mem_nil
  | cons x xs ih =>
    by_cases hx : isDelimiter x = true
    · exact ⟨[], x, xs, rfl, fun c hc => absurd hc List.not_mem_nil, hx⟩
    · have htail : ∃ c ∈ xs, isDelimiter c = true := by
        rcases h with ⟨c, hc, hdelim⟩
        rcases List.mem_cons.1 hc with rfl | hc
        · exact absurd hdelim hx
        · exact ⟨c, hc, hdelim⟩
      rcases ih htail with ⟨head, d, post, rfl, hhead, hd⟩
      exact ⟨x :: head, d, post, rfl, clear_cons.2 ⟨by simpa using hx, hhead⟩, hd⟩

theorem isDelimiter_of_isClosing (h : isClosing d = true) : isDelimiter d = true := by
  simp only [isClosing, Bool.or_eq_true, decide_eq_true_eq] at h
  rcases h with ((rfl | rfl) | rfl) | rfl
  all_goals decide

/-- Before a closing delimiter, and without opening brackets, nothing begins. -/
theorem Opens.skips (h : Opens p) (hxs : '(' ∉ xs ∧ '<' ∉ xs) (hd : isClosing d = true) (ys : List Char) :
    Skips p (xs ++ [d]) ys := by
  intro u v huv hv
  refine Option.eq_none_iff_forall_ne_some.2 fun found hfound => ?_
  rcases h _ found hfound with ⟨head, d', post, hcs, hhead, hd'⟩
  -- the first delimiter of the stretch is one of its own, and none of these is an opening bracket
  have hdv : d ∈ v := by
    have hlast : (xs ++ [d]).getLast? = v.getLast? := by
      rw [huv, List.getLast?_append_of_ne_nil u hv]
    rw [List.getLast?_concat] at hlast
    exact List.mem_of_getLast? hlast.symm
  obtain ⟨head', e, post', rfl, hhead', he⟩ :=
    exists_first_delimiter ⟨d, hdv, isDelimiter_of_isClosing hd⟩
  rw [List.append_assoc, List.cons_append] at hcs
  have hd'delim := isDelimiter_of_opening hd'
  rcases hhead'.append_inj hhead he hd'delim hcs with ⟨-, rfl, -⟩
  have hemem : e ∈ xs ++ [d] := by
    rw [huv]
    exact List.mem_append_right u (List.mem_append_right head' List.mem_cons_self)
  rcases List.mem_append.1 hemem with hemem | hemem
  · rcases hd' with rfl | rfl
    · exact hxs.1 hemem
    · exact hxs.2 hemem
  · rw [List.mem_singleton.1 hemem] at hd'
    rcases hd' with rfl | rfl
    all_goals exact absurd hd (by decide)

/-- The positions of a segment are its suffixes. -/
theorem skips_segment (h : ∀ u w, seg = u ++ w → p (w ++ d :: ys) = none) : Skips p (seg ++ [d]) ys := by
  intro u v huv hv
  obtain ⟨w, e, rfl⟩ : ∃ w e, v = w ++ [e] := ⟨v.dropLast, v.getLast hv, (List.dropLast_concat_getLast hv).symm⟩
  rw [← List.append_assoc] at huv
  rcases List.append_inj' huv rfl with ⟨hseg, he⟩
  obtain rfl := List.head_eq_of_cons_eq he
  rw [List.append_assoc]
  exact h u w hseg

/-- What is found from inside a segment on begins with the rest of the segment: a binder, the sign, and a text. -/
theorem Assigns.exists_of_clear {w : List Char} (h : Assigns p T) (hw : Clear w) (hd : isDelimiter d = true)
    {found : α × List Char} (hfound : p (w ++ d :: ys) = some found) :
    ∃ binder text, w = binder ++ '=' :: text ∧ T text := by
  rcases h _ found hfound with ⟨binder, text, d', post, hcs, hbinder, htext, hd', hT⟩
  -- the segment and what is found agree up to the first delimiter
  have hhead : Clear (binder ++ '=' :: text) := hbinder.clear.append (clear_cons.2 ⟨by decide, htext⟩)
  have hcs' : w ++ d :: ys = (binder ++ '=' :: text) ++ d' :: post := by rw [hcs]; simp
  rcases hw.append_inj hhead hd (isDelimiter_of_opening hd') hcs' with ⟨rfl, -, -⟩
  exact ⟨binder, text, rfl, hT⟩

theorem Assigns.skips_of_not_mem (h : Assigns p T) (hseg : Clear seg) (hd : isDelimiter d = true)
    (hsign : '=' ∉ seg) (ys : List Char) : Skips p (seg ++ [d]) ys := by
  apply skips_segment
  rintro u w rfl
  refine Option.eq_none_iff_forall_ne_some.2 fun found hfound => ?_
  have hw : Clear w := fun c hc => hseg c (List.mem_append_right u hc)
  obtain ⟨binder, text, rfl, -⟩ := h.exists_of_clear hw hd hfound
  exact hsign (by simp)

theorem Assigns.skips_of_not (h : Assigns p T) {left right : List Char} (hleft : Clear left)
    (hright : Clear right) (hd : isDelimiter d = true) (hlsign : '=' ∉ left) (hrsign : '=' ∉ right)
    (hT : ¬ T right) (ys : List Char) : Skips p ((left ++ '=' :: right) ++ [d]) ys := by
  apply skips_segment
  intro u w huw
  refine Option.eq_none_iff_forall_ne_some.2 fun found hfound => ?_
  have hseg : Clear (left ++ '=' :: right) := hleft.append (clear_cons.2 ⟨by decide, hright⟩)
  have hw : Clear w := fun c hc => hseg c (huw ▸ List.mem_append_right u hc)
  obtain ⟨binder, text, rfl, hTtext⟩ := h.exists_of_clear hw hd hfound
  -- there is one equality sign only
  rw [← List.append_assoc] at huw
  rcases (List.append_cons_inj_of_notMem hlsign hrsign).1 huw with ⟨-, -, rfl⟩
  exact hT hTtext

theorem Assigns.skips_of_isBlank (h : Assigns p T) (hxs : ∀ c ∈ xs, isBlank c = true) (ys : List Char) :
    Skips p xs ys := by
  intro u v huv hv
  refine Option.eq_none_iff_forall_ne_some.2 fun found hfound => ?_
  rcases h _ found hfound with ⟨binder, text, d, post, hcs, hbinder, -⟩
  rcases List.exists_cons_of_ne_nil hv with ⟨c, v, rfl⟩
  rcases List.exists_cons_of_ne_nil hbinder.starts.1 with ⟨b, binder, rfl⟩
  -- a binder begins with no blank
  rcases List.cons.inj hcs with ⟨rfl, -⟩
  have hblank := hxs c (huv ▸ List.mem_append_right u List.mem_cons_self)
  rw [stops_cons.1 hbinder.starts.2] at hblank
  cases hblank

/-- Where a segment has one dot, a call of another method is passed over. -/
theorem Calls.skips_of_ne {name name' pre : List Char} (h : Calls p ('.' :: name))
    (hname : Clear name) (hpre : Clear pre ∧ '.' ∉ pre)
    (hname' : Clear name' ∧ '.' ∉ name' ∧ ∀ c ∈ name', isBlank c = false) (hd : isDelimiter d = true)
    (hne : name = name' → d ≠ '(') (ys : List Char) : Skips p ((pre ++ '.' :: name') ++ [d]) ys := by
  apply skips_segment
  intro u w huw
  refine Option.eq_none_iff_forall_ne_some.2 fun found hfound => ?_
  rcases h _ found hfound with ⟨bl, post, hcs, hbl⟩
  have hseg : Clear (pre ++ '.' :: name') := hpre.1.append (clear_cons.2 ⟨by decide, hname'.1⟩)
  have hw : Clear w := fun c hc => hseg c (huw ▸ List.mem_append_right u hc)
  -- up to the delimiter only the name and blanks can stand after the dot
  have hhead : Clear (('.' :: name) ++ bl) :=
    (clear_cons.2 ⟨by decide, hname⟩ : Clear ('.' :: name)).append (clear_of_isBlank hbl)
  have hcs' : w ++ d :: ys = (('.' :: name) ++ bl) ++ '(' :: post := by rw [hcs]; simp
  rcases hw.append_inj hhead hd (by decide) hcs' with ⟨rfl, rfl, -⟩
  rw [List.cons_append] at huw
  rcases (List.append_cons_inj_of_notMem hpre.2 hname'.2.1).1 huw with ⟨-, -, rfl⟩
  have hbl' : bl = [] := by
    rw [List.eq_nil_iff_forall_not_mem]
    intro c hc
    have hnot := hname'.2.2 c (List.mem_append_right name hc)
    rw [hbl c hc] at hnot
    cases hnot
  exact hne (by rw [hbl', List.append_nil]) rfl

theorem Calls.skips_of_not_mem {name : List Char} (h : Calls p ('.' :: name)) (hdot : '.' ∉ xs)
    (ys : List Char) : Skips p xs ys := by
  intro u v huv hv
  refine Option.eq_none_iff_forall_ne_some.2 fun found hfound => ?_
  rcases h _ found hfound with ⟨bl, post, hcs, -⟩
  rcases List.exists_cons_of_ne_nil hv with ⟨c, v, rfl⟩
  rcases List.cons.inj hcs with ⟨rfl, -⟩
  exact hdot (huv ▸ List.mem_append_right u List.mem_cons_self)

end AppHost
end HostTopology
