import HostTopology.Text.Scan
import Mathlib.Data.List.TakeWhile

/-!
# Scanning — what scans read, and where they find nothing

A scan is followed in two directions. Forwards, a text that begins with a piece is read
(`literal_append`, `word_append`, …). Backwards, a text that was read begins with a piece
(`literal_eq_some`, `exists_word`, …).

* `Takes p` — something is read, and the rest of the text is left;
* `Skips p xs ys` — no piece begins inside `xs`, where `ys` follows;
* `all_of_skips`, `all_of_hit` — the search for all pieces passes over `xs`, or takes one piece.
-/

namespace HostTopology
namespace Text

/-- What follows a run does not go on with it. -/
def Stops (p : Char → Bool) (cs : List Char) : Prop :=
  ∀ c ∈ cs.head?, p c = false

theorem stops_cons {p : Char → Bool} {c : Char} {cs : List Char} : Stops p (c :: cs) ↔ p c = false := by
  simp [Stops]

theorem stops_append {p : Char → Bool} {xs : List Char} (hne : xs ≠ []) (h : ∀ c ∈ xs, p c = false)
    (ys : List Char) : Stops p (xs ++ ys) := by
  rcases List.exists_cons_of_ne_nil hne with ⟨c, rest, rfl⟩
  rw [List.cons_append, stops_cons]
  exact h c List.mem_cons_self

theorem takeWhile_append_of_stops {p : Char → Bool} {xs ys : List Char} (hall : ∀ c ∈ xs, p c = true)
    (hstop : Stops p ys) : (xs ++ ys).takeWhile p = xs := by
  rw [List.takeWhile_append_of_pos hall]
  cases ys with
  | nil => rw [List.takeWhile_nil, List.append_nil]
  | cons y ys => rw [List.takeWhile_cons_of_neg (by simp [stops_cons.1 hstop]), List.append_nil]

theorem dropWhile_append_of_stops {p : Char → Bool} {xs ys : List Char} (hall : ∀ c ∈ xs, p c = true)
    (hstop : Stops p ys) : (xs ++ ys).dropWhile p = ys := by
  rw [List.dropWhile_append_of_pos hall]
  cases ys with
  | nil => rfl
  | cons y ys => rw [List.dropWhile_cons_of_neg (by simp [stops_cons.1 hstop])]

namespace Scan

variable {α β : Type} {p p' : Scan α} {f : α → Scan β} {a : α} {b : β} {xs ys cs cs' mid rest : List Char}
  {q : Char → Bool}

/-! ## Sequences -/

theorem bind_apply (h : p cs = some (a, mid)) : (p >>= f) cs = f a mid := by
  change andThen p f cs = f a mid
  rw [andThen, h]

theorem bind_eq_some : (p >>= f) cs = some (b, rest) ↔
    ∃ a mid, p cs = some (a, mid) ∧ f a mid = some (b, rest) := by
  change andThen p f cs = some (b, rest) ↔ _
  rw [andThen]
  cases h : p cs with
  | none => simp
  | some found =>
    rcases found with ⟨a, mid⟩
    constructor
    · intro hf
      exact ⟨a, mid, rfl, hf⟩
    · rintro ⟨a', mid', hfound, hf⟩
      rcases Prod.mk.inj (Option.some.inj hfound) with ⟨rfl, rfl⟩
      exact hf

theorem bind_of_eq (h : p cs = p cs') : (p >>= f) cs = (p >>= f) cs' := by
  change andThen p f cs = andThen p f cs'
  rw [andThen, andThen, h]

theorem bind_of_none (h : p cs = none) : (p >>= f) cs = none := by
  change andThen p f cs = none
  rw [andThen, h]

/-! ## Pieces -/

theorem literal_append (s : String) (ys : List Char) : literal s (s.toList ++ ys) = some ((), ys) := by
  simp [literal]

theorem literal_eq_some {s : String} {u : Unit} : literal s cs = some (u, rest) ↔ cs = s.toList ++ rest := by
  rw [literal]
  constructor
  · intro h
    split at h
    · rename_i hprefix
      rcases List.isPrefixOf_iff_prefix.1 hprefix with ⟨tail, rfl⟩
      rw [List.drop_left] at h
      rw [(Prod.mk.inj (Option.some.inj h)).2]
    · cases h
  · rintro rfl
    simp

theorem run_append (hall : ∀ c ∈ xs, q c = true) (hstop : Stops q ys) :
    run q (xs ++ ys) = some (xs, ys) := by
  rw [run, takeWhile_append_of_stops hall hstop, dropWhile_append_of_stops hall hstop]

theorem someOf_append (hne : xs ≠ []) (hall : ∀ c ∈ xs, q c = true) (hstop : Stops q ys) :
    someOf q (xs ++ ys) = some (xs, ys) := by
  rw [someOf, takeWhile_append_of_stops hall hstop, dropWhile_append_of_stops hall hstop]
  cases xs with
  | nil => exact absurd rfl hne
  | cons x xs => rfl

theorem exists_run {found : List Char} (h : run q cs = some (found, rest)) :
    cs = found ++ rest ∧ ∀ c ∈ found, q c = true := by
  rw [run] at h
  rcases Prod.mk.inj (Option.some.inj h) with ⟨rfl, rfl⟩
  exact ⟨List.takeWhile_append_dropWhile.symm, fun c hc => List.mem_takeWhile_imp hc⟩

theorem exists_someOf {found : List Char} (h : someOf q cs = some (found, rest)) :
    cs = found ++ rest ∧ found ≠ [] ∧ ∀ c ∈ found, q c = true := by
  rw [someOf] at h
  split at h
  · cases h
  · rename_i hne
    rcases Prod.mk.inj (Option.some.inj h) with ⟨rfl, rfl⟩
    exact ⟨List.takeWhile_append_dropWhile.symm, hne, fun c hc => List.mem_takeWhile_imp hc⟩

theorem blanks_append (hall : ∀ c ∈ xs, isBlank c = true) (hstop : Stops isBlank ys) :
    blanks (xs ++ ys) = some ((), ys) := by
  rw [blanks, bind_apply (run_append hall hstop)]
  rfl

/-- There can be no blanks. -/
theorem blanks_of_stops (hstop : Stops isBlank ys) : blanks ys = some ((), ys) := by
  have hnil : ∀ c ∈ ([] : List Char), isBlank c = true := by decide
  have h := blanks_append hnil hstop
  exact h

theorem exists_blanks {u : Unit} (h : blanks cs = some (u, rest)) :
    ∃ bl, cs = bl ++ rest ∧ ∀ c ∈ bl, isBlank c = true := by
  rw [blanks, bind_eq_some] at h
  rcases h with ⟨found, mid, hrun, hmid⟩
  rcases exists_run hrun with ⟨rfl, hall⟩
  rcases Prod.mk.inj (Option.some.inj hmid) with ⟨-, rfl⟩
  exact ⟨found, rfl, hall⟩

theorem someBlanks_append (hne : xs ≠ []) (hall : ∀ c ∈ xs, isBlank c = true) (hstop : Stops isBlank ys) :
    someBlanks (xs ++ ys) = some ((), ys) := by
  rw [someBlanks, bind_apply (someOf_append hne hall hstop)]
  rfl

theorem exists_someBlanks {u : Unit} (h : someBlanks cs = some (u, rest)) :
    ∃ bl, cs = bl ++ rest ∧ bl ≠ [] ∧ ∀ c ∈ bl, isBlank c = true := by
  rw [someBlanks, bind_eq_some] at h
  rcases h with ⟨found, mid, hrun, hmid⟩
  rcases exists_someOf hrun with ⟨rfl, hne, hall⟩
  rcases Prod.mk.inj (Option.some.inj hmid) with ⟨-, rfl⟩
  exact ⟨found, rfl, hne, hall⟩

theorem word_append {s : String} (hne : s ≠ "") (hall : ∀ c ∈ s.toList, isWord c = true)
    (hstop : Stops isWord ys) : word (s.toList ++ ys) = some (s, ys) := by
  have hne' : s.toList ≠ [] := by simpa using hne
  rw [word, bind_apply (someOf_append hne' hall hstop), String.ofList_toList]
  rfl

theorem exists_word {s : String} (h : word cs = some (s, rest)) :
    cs = s.toList ++ rest ∧ s ≠ "" ∧ ∀ c ∈ s.toList, isWord c = true := by
  rw [word, bind_eq_some] at h
  rcases h with ⟨found, mid, hrun, hmid⟩
  rcases exists_someOf hrun with ⟨rfl, hne, hall⟩
  rcases Prod.mk.inj (Option.some.inj hmid) with ⟨rfl, rfl⟩
  rw [String.toList_ofList]
  refine ⟨rfl, ?_, hall⟩
  intro hempty
  rw [← String.toList_inj, String.toList_ofList] at hempty
  exact hne hempty

theorem ne_quote {s : String} (hs : '"' ∉ s.toList) : ∀ c ∈ s.toList, decide (c ≠ '"') = true := by
  intro c hc
  exact decide_eq_true fun heq => hs (heq ▸ hc)

theorem stops_quote (ys : List Char) : Stops (· ≠ '"') ("\"".toList ++ ys) :=
  stops_append (by decide) (by decide) ys

theorem quoted_append {s : String} (hs : '"' ∉ s.toList) (ys : List Char) :
    quoted ("\"".toList ++ (s.toList ++ ("\"".toList ++ ys))) = some (s, ys) := by
  rw [quoted, bind_apply (literal_append _ _), bind_apply (run_append (ne_quote hs) (stops_quote ys)),
    bind_apply (literal_append _ _), String.ofList_toList]
  rfl

theorem quotedSome_append {s : String} (hne : s ≠ "") (hs : '"' ∉ s.toList) (ys : List Char) :
    quotedSome ("\"".toList ++ (s.toList ++ ("\"".toList ++ ys))) = some (s, ys) := by
  have hne' : s.toList ≠ [] := by simpa using hne
  rw [quotedSome, bind_apply (literal_append _ _),
    bind_apply (someOf_append hne' (ne_quote hs) (stops_quote ys)), bind_apply (literal_append _ _),
    String.ofList_toList]
  rfl

/-! ## Choice -/

theorem either_of_left {p q : Scan α} {found : α × List Char} (h : p cs = some found) :
    either p q cs = some found := by
  rw [either, h]

theorem either_of_right {p q : Scan α} (h : p cs = none) : either p q cs = q cs := by
  rw [either, h]

theorem either_eq_some {p q : Scan α} {found : α × List Char} (h : either p q cs = some found) :
    p cs = some found ∨ q cs = some found := by
  rw [either] at h
  split at h
  · rename_i heq
    exact Or.inl (heq.trans h)
  · exact Or.inr h

/-! ## What scans leave -/

/-- What is left is an end of the text. -/
def Shrinks (p : Scan α) : Prop :=
  ∀ cs a rest, p cs = some (a, rest) → rest <:+ cs

/-- Something is read. -/
def Takes (p : Scan α) : Prop :=
  ∀ cs a rest, p cs = some (a, rest) → ∃ xs, xs ≠ [] ∧ cs = xs ++ rest

theorem Takes.shrinks (h : Takes p) : Shrinks p := by
  intro cs a rest hp
  obtain ⟨xs, -, rfl⟩ := h cs a rest hp
  exact List.suffix_append xs rest

theorem Shrinks.bind (hp : Shrinks p) (hf : ∀ a, Shrinks (f a)) : Shrinks (p >>= f) := by
  intro cs b rest h
  obtain ⟨a, mid, hmid, hrest⟩ := bind_eq_some.1 h
  exact (hf a mid b rest hrest).trans (hp cs a mid hmid)

theorem Takes.bind (hp : Takes p) (hf : ∀ a, Shrinks (f a)) : Takes (p >>= f) := by
  intro cs b rest h
  obtain ⟨a, mid, hmid, hrest⟩ := bind_eq_some.1 h
  obtain ⟨xs, hne, rfl⟩ := hp cs a mid hmid
  obtain ⟨ys, rfl⟩ := hf a mid b rest hrest
  exact ⟨xs ++ ys, List.append_ne_nil_of_left_ne_nil hne ys, (List.append_assoc ..).symm⟩

theorem Shrinks.either {p' : Scan α} (hp : Shrinks p) (hp' : Shrinks p') : Shrinks (either p p') := by
  intro cs a rest h
  rcases either_eq_some h with h | h
  · exact hp cs a rest h
  · exact hp' cs a rest h

theorem Takes.either {p' : Scan α} (hp : Takes p) (hp' : Takes p') : Takes (either p p') := by
  intro cs a rest h
  rcases either_eq_some h with h | h
  · exact hp cs a rest h
  · exact hp' cs a rest h

theorem shrinks_pure (a : α) : Shrinks (pure a) := by
  intro cs b rest h
  obtain ⟨-, rfl⟩ := Prod.mk.inj (Option.some.inj h)
  exact List.suffix_rfl

theorem takes_literal {s : String} (hs : s.toList ≠ []) : Takes (literal s) :=
  fun _ _ _ h => ⟨s.toList, hs, literal_eq_some.1 h⟩

theorem shrinks_literal (s : String) : Shrinks (literal s) :=
  fun _ _ _ h => ⟨s.toList, (literal_eq_some.1 h).symm⟩

theorem shrinks_run (q : Char → Bool) : Shrinks (run q) :=
  fun _ found _ h => ⟨found, (exists_run h).1.symm⟩

theorem takes_someOf (q : Char → Bool) : Takes (someOf q) :=
  fun _ found _ h => ⟨found, (exists_someOf h).2.1, (exists_someOf h).1⟩

theorem shrinks_blanks : Shrinks blanks :=
  (shrinks_run _).bind fun _ => shrinks_pure _

theorem takes_someBlanks : Takes someBlanks :=
  (takes_someOf _).bind fun _ => shrinks_pure _

theorem takes_word : Takes word :=
  (takes_someOf _).bind fun _ => shrinks_pure _

theorem takes_quoted : Takes quoted :=
  (takes_literal (by decide)).bind fun _ => (shrinks_run _).bind fun _ => (shrinks_literal _).bind fun _ =>
    shrinks_pure _

theorem takes_quotedSome : Takes quotedSome :=
  (takes_literal (by decide)).bind fun _ => (takes_someOf _).shrinks.bind fun _ => (shrinks_literal _).bind fun _ =>
    shrinks_pure _

theorem shrinks_perhaps {p : Scan Unit} (h : Shrinks p) : Shrinks (perhaps p) :=
  h.either (shrinks_pure ())

/-! ## Search -/

/-- No piece begins inside a text. -/
def Skips (p : Scan α) (xs ys : List Char) : Prop :=
  ∀ u v, xs = u ++ v → v ≠ [] → p (v ++ ys) = none

theorem Skips.append (hx : Skips p xs (ys ++ rest)) (hy : Skips p ys rest) : Skips p (xs ++ ys) rest := by
  intro u v huv hv
  rcases List.append_eq_append_iff.1 huv with ⟨w, rfl, hw⟩ | ⟨w, hw, rfl⟩
  · exact hy w v hw hv
  · by_cases hwnil : w = []
    · subst hwnil
      exact hy [] ys rfl hv
    · rw [List.append_assoc]
      exact hx u w hw hwnil

theorem Skips.tail {c : Char} (h : Skips p (c :: xs) ys) : Skips p xs ys := by
  intro u v huv hv
  exact h (c :: u) v (by rw [huv, List.cons_append]) hv

theorem allFrom_append (p : Scan α) (xs ys : List Char) : allFrom p xs.length (xs ++ ys) = all p ys := by
  induction xs with
  | nil => rfl
  | cons x xs ih => rw [List.length_cons, List.cons_append, allFrom, ih]

theorem all_of_skips (h : Skips p xs ys) : all p (xs ++ ys) = all p ys := by
  induction xs with
  | nil => rfl
  | cons x xs ih =>
    have hhead : p (x :: (xs ++ ys)) = none := h [] (x :: xs) rfl (List.cons_ne_nil x xs)
    rw [List.cons_append, all, allFrom, hhead]
    exact ih h.tail

theorem all_of_hit (hne : xs ≠ []) (h : p (xs ++ ys) = some (a, ys)) :
    all p (xs ++ ys) = a :: all p ys := by
  cases xs with
  | nil => exact absurd rfl hne
  | cons x xs =>
    rw [List.cons_append] at h
    have hlen : (xs ++ ys).length - ys.length = xs.length := by
      rw [List.length_append, Nat.add_sub_cancel]
    rw [List.cons_append, all, allFrom, h]
    change a :: allFrom p ((xs ++ ys).length - ys.length) (xs ++ ys) = _
    rw [hlen, allFrom_append]

theorem all_cons_of_none {c : Char} (h : p (c :: cs) = none) : all p (c :: cs) = all p cs := by
  rw [all, allFrom, h]
  rfl

/-- After a piece the search goes on with what the piece leaves. -/
theorem Takes.all_eq (h : Takes p) (hp : p cs = some (a, rest)) : all p cs = a :: all p rest := by
  obtain ⟨xs, hne, rfl⟩ := h cs a rest hp
  exact all_of_hit hne hp

/-- More is found in more text, unless a piece goes over its beginning. -/
theorem Takes.length_all_le (hp : Takes p)
    (h : ∀ v, v ≠ [] → v <:+ xs → ∀ a rest, p (v ++ ys) = some (a, rest) → ∃ w, rest = w ++ ys) :
    (all p ys).length ≤ (all p (xs ++ ys)).length := by
  induction hn : xs.length using Nat.strong_induction_on generalizing xs with
  | h n ih =>
  cases xs with
  | nil => exact Nat.le_refl _
  | cons c xs =>
    have hnext : ∀ w, w <:+ c :: xs → w.length < n → (all p ys).length ≤ (all p (w ++ ys)).length :=
      fun w hw hlt => ih w.length hlt (fun v hv hvw => h v hv (hvw.trans hw)) rfl
    cases hfound : p (c :: xs ++ ys) with
    | none =>
      have hle := hnext xs (List.suffix_cons c xs) (hn ▸ Nat.lt_succ_self _)
      rw [List.cons_append] at hfound ⊢
      rwa [all_cons_of_none hfound]
    | some found =>
      -- the piece ends before `ys`, and the search goes on with what is left of `xs`
      obtain ⟨w, hw⟩ := h (c :: xs) (List.cons_ne_nil c xs) List.suffix_rfl found.1 found.2 hfound
      obtain ⟨y, hne, hy⟩ := hp _ _ _ hfound
      rw [hw, ← List.append_assoc, List.append_left_inj] at hy
      have hlt : w.length < n := by
        have hpos := List.length_pos_iff.2 hne
        rw [← hn, hy, List.length_append]
        omega
      have hle := hnext w (hy ▸ List.suffix_append y w) hlt
      rw [hp.all_eq hfound, hw, List.length_cons]
      omega

theorem first?_of_skips (h : Skips p xs ys) : first? p (xs ++ ys) = first? p ys := by
  induction xs with
  | nil => rfl
  | cons x xs ih =>
    have hhead : p (x :: (xs ++ ys)) = none := h [] (x :: xs) rfl (List.cons_ne_nil x xs)
    rw [List.cons_append, first?, hhead]
    exact ih h.tail

theorem first?_of_hit (hne : cs ≠ []) (h : p cs = some (a, rest)) : first? p cs = some a := by
  cases cs with
  | nil => exact absurd rfl hne
  | cons c cs => rw [first?, h]

end Scan
end Text
end HostTopology
