import HostTopology.Proofs.Reading

/-!
# Fragments — statements that are cut at the semicolons of their texts

The texts of a configuration stand in the code as they are. The reader takes every semicolon for the end
of a statement, and a method for a call wherever it stands. This file tells which texts leave the references
of a statement as they are:

* `marks`, `IsMute` — what the reader looks for, and texts that have none of it;
* `ChainCall.IsMute`, `Statement.IsMute` — calls and statements whose texts are mute;
* `Statement.IsMute.whole` — without semicolons, a statement is one fragment with its references;
* `Statement.IsMute.fragments` — without references, a statement has none in any of its fragments.
-/

namespace HostTopology
namespace AppHost

open Text Scan

variable {α : Type} {p : Scan α} {m cs post xs ys gap indent : List Char} {d : Char} {name : String}
  {c : ChainCall} {chain : List ChainCall} {s : Statement}

/-! ## Searches for a mark -/

/-- What `p` finds has the mark `m` in it, before any delimiter. -/
def Bears (p : Scan α) (m : List Char) : Prop :=
  ∀ cs found, p cs = some found → ∃ pre post, cs = pre ++ (m ++ post) ∧ Clear pre

theorem Calls.bears (h : Calls p m) : Bears p m := by
  intro cs found hp
  rcases h cs found hp with ⟨bl, post, rfl, -⟩
  exact ⟨[], bl ++ '(' :: post, rfl, fun c hc => absurd hc List.not_mem_nil⟩

theorem bears_declaration : Bears declaration "builder.Add".toList := by
  intro cs found hp
  rcases assigns_declaration cs found hp with ⟨binder, text, d, post, rfl, hbinder, -, -, bl, w, bl', rfl, hbl, -⟩
  refine ⟨binder ++ '=' :: bl, w ++ (bl' ++ d :: post), by simp, hbinder.clear.append ?_⟩
  exact clear_cons.2 ⟨by decide, clear_of_isBlank hbl⟩

theorem bears_databaseDeclaration : Bears databaseDeclaration ".AddDatabase".toList := by
  intro cs found hp
  rcases assigns_databaseDeclaration cs found hp with
    ⟨binder, text, d, post, rfl, hbinder, -, -, bl, w, bl', rfl, hbl, hw, -⟩
  refine ⟨binder ++ '=' :: (bl ++ w), bl' ++ d :: post, by simp, hbinder.clear.append ?_⟩
  exact clear_cons.2 ⟨by decide, (clear_of_isBlank hbl).append (clear_of_isWord hw)⟩

theorem prefix_of_append_eq {w piece : List Char} (hys : ∀ d ∈ ys.head?, d ∉ piece)
    (h : w ++ ys = piece ++ post) : piece <+: w := by
  rcases List.append_eq_append_iff.1 h with ⟨u, rfl, hu⟩ | ⟨u, rfl, -⟩
  · cases u with
    | nil => exact (List.append_nil w).symm ▸ List.prefix_rfl
    | cons e u =>
      have hhead : e ∈ ys.head? := by
        rw [hu]
        exact rfl
      exact absurd (List.mem_append_right w List.mem_cons_self) (hys e hhead)
  · exact List.prefix_append piece u

/-- Up to a delimiter, a text without the mark holds nothing that is found. -/
theorem Bears.skips (h : Bears p m) (hm : Clear m) (hxs : ¬ m <:+: xs) (hd : isDelimiter d = true)
    (ys : List Char) : Skips p (xs ++ [d]) ys := by
  apply skips_segment
  rintro u w rfl
  refine Option.eq_none_iff_forall_ne_some.2 fun found hfound => ?_
  rcases h _ found hfound with ⟨pre, post, hcs, hpre⟩
  -- neither the mark nor what stands before it goes over the delimiter
  have hnot : d ∉ pre ++ m := by
    intro hmem
    rw [hpre.append hm d hmem] at hd
    cases hd
  rw [← List.append_assoc] at hcs
  have hstart := prefix_of_append_eq (by simpa using hnot) hcs
  exact hxs ((List.suffix_append pre m).isInfix.trans (hstart.isInfix.trans (List.suffix_append u w).isInfix))

/-- A text without the method holds no call of it. -/
theorem Calls.skips_of_not_infix (h : Calls p m) (hxs : ¬ m <:+: xs) (hys : ∀ d ∈ ys.head?, d ∉ m) :
    Skips p xs ys := by
  rintro u v rfl hv
  refine Option.eq_none_iff_forall_ne_some.2 fun found hfound => ?_
  rcases h _ found hfound with ⟨bl, post, hcs, -⟩
  exact hxs ((prefix_of_append_eq hys hcs).isInfix.trans (List.suffix_append u v).isInfix)

/-- A text without the mark holds nothing that is found. -/
theorem Bears.skips_of_not_infix (h : Bears p m) (hxs : ¬ m <:+: xs) : Skips p xs [] := by
  rintro u v rfl -
  refine Option.eq_none_iff_forall_ne_some.2 fun found hfound => ?_
  rcases h _ found hfound with ⟨pre, post, hcs, -⟩
  rw [List.append_nil] at hcs
  have hv : m <:+: v := ⟨pre, post, by rw [hcs, List.append_assoc]⟩
  exact hxs (hv.trans (List.suffix_append u v).isInfix)

theorem Bears.all_eq_nil (h : Bears p m) (hxs : ¬ m <:+: xs) : all p xs = [] := by
  have hall := all_of_skips (h.skips_of_not_infix hxs)
  rwa [List.append_nil] at hall

theorem Bears.first?_eq_none (h : Bears p m) (hxs : ¬ m <:+: xs) : first? p xs = none := by
  have hfirst := first?_of_skips (h.skips_of_not_infix hxs)
  rwa [List.append_nil] at hfirst

/-! ## Mute texts -/

/-- What the reader looks for: resources and databases, references and numbers of replicas. -/
def marks : List String :=
  ["builder.Add", ".AddDatabase", ".WithReference", ".WithReplicas"]

/-- A text on one line without a mark. -/
structure IsMute (s : String) : Prop where
  line : '\n' ∉ s.toList
  unmarked : ∀ m ∈ marks, contains m.toList s.toList = false

instance (s : String) : Decidable (IsMute s) :=
  decidable_of_iff ('\n' ∉ s.toList ∧ ∀ m ∈ marks, contains m.toList s.toList = false)
    ⟨fun h => ⟨h.1, h.2⟩, fun h => ⟨h.line, h.unmarked⟩⟩

/-- The texts of a call that can be anything. -/
def ChainCall.texts : ChainCall → List String
  | endpoint host target => host.toList ++ [target]
  | environment key value => [key, value]
  | bindMount source target => [source, target]
  | _ => []

/-- A call with mute texts. Without texts it is plain. -/
structure ChainCall.IsMute (c : ChainCall) : Prop where
  texts : ∀ s ∈ c.texts, AppHost.IsMute s
  plain : c.texts = [] → c.IsPlain

structure Statement.IsMute (s : Statement) : Prop extends s.IsFramed where
  chain : ∀ c ∈ s.chain, c.IsMute

/-- A mark in the arguments of an endpoint is in one of its texts. -/
theorem not_contains_endpoint (hdot : '.' ∈ m) (hcomma : ',' ∉ m) (hspace : ' ' ∉ m) {host : Option String}
    {target : String} (hhost : ∀ s ∈ host.toList, contains m s.toList = false)
    (htarget : contains m target.toList = false) :
    contains m (ChainCall.endpoint host target).arguments.toList = false := by
  have hlabel : contains m ("targetPort: " ++ target).toList = false := by
    have htext : ("targetPort: " ++ target).toList = "targetPort:".toList ++ ' ' :: target.toList := by
      rw [String.toList_append]
      rfl
    rw [htext, contains_append_cons hspace, htarget, not_contains_of_not_mem hdot (by decide)]
    rfl
  cases host with
  | none => exact hlabel
  | some host =>
    have htext : (ChainCall.endpoint (some host) target).arguments.toList =
        "port:".toList ++ ' ' :: (host.toList ++ ',' :: ([] ++ ' ' :: ("targetPort: " ++ target).toList)) := by
      have hparts : "port: ".toList = "port:".toList ++ [' '] ∧
          ", targetPort: ".toList = ',' :: ' ' :: "targetPort: ".toList := by decide
      simp only [ChainCall.arguments, String.toList_append, hparts.1, hparts.2, List.append_assoc, List.cons_append,
        List.nil_append]
    -- the comma and the blanks part the texts, and the mark has neither
    rw [htext, contains_append_cons hspace, contains_append_cons hcomma, contains_append_cons hspace,
      hhost host (List.mem_singleton_self host), hlabel, not_contains_of_not_mem hdot (by decide),
      not_contains_of_not_mem hdot List.not_mem_nil]
    rfl

/-- A mark in the arguments of a call is in one of its texts. -/
theorem ChainCall.IsMute.unmarked (hc : c.IsMute) :
    ∀ m ∈ marks, contains m.toList c.arguments.toList = false := by
  have hmarks : ∀ m ∈ marks, '.' ∈ m.toList ∧ ',' ∉ m.toList ∧ ' ' ∉ m.toList ∧ m.toList ≠ [] ∧
      (∀ c ∈ m.toList, c ∉ ['"', ',', ' ']) ∧
        contains m.toList (ChainCall.persistentLifetime.arguments).toList = false := by decide
  intro m hm
  obtain ⟨hdot, hcomma, hspace, hne, hsigns, hlifetime⟩ := hmarks m hm
  -- quotes, commas and blanks part the texts, and words have no dot
  have htexts : ∀ s ∈ c.texts, contains m.toList s.toList = false := fun s hs => (hc.texts s hs).unmarked m hm
  cases c with
  | persistentLifetime => exact hlifetime
  | portFromEnv => exact not_contains_of_not_mem hdot (by decide)
  | environment key value =>
    exact contains_pair hsigns hne (htexts key (by simp [ChainCall.texts])) (htexts value (by simp [ChainCall.texts]))
  | bindMount source target =>
    exact contains_pair hsigns hne (htexts source (by simp [ChainCall.texts]))
      (htexts target (by simp [ChainCall.texts]))
  | endpoint host target =>
    exact not_contains_endpoint hdot hcomma hspace (fun s hs => htexts s (List.mem_append_left _ hs))
      (htexts target (by simp [ChainCall.texts]))
  | replicas count =>
    have hdigits := isDigit_toString (hc.plain rfl).1
    exact not_contains_of_isAlphanum hdot fun c hc => isAlphanum_of_isDigit (hdigits c hc)
  | reference name =>
    have hvariable : IsVariable name := hc.plain rfl
    exact not_contains_of_isAlphanum hdot hvariable.isAlphanum
  | waitFor name =>
    have hvariable : IsVariable name := hc.plain rfl
    exact not_contains_of_isAlphanum hdot hvariable.isAlphanum

/-- A line end or a semicolon of a call stands in one of its texts. -/
theorem ChainCall.IsMute.not_mem_arguments (hc : c.IsMute) {ch : Char} (hch : ch = '\n' ∨ ch = ';')
    (htexts : ∀ s ∈ c.texts, ch ∉ s.toList) : ch ∉ c.arguments.toList := by
  have hsigns : ch ≠ '"' ∧ ch ∉ ", ".toList ∧ ch ∉ "port: ".toList ∧ ch ∉ ", targetPort: ".toList ∧
      ch ∉ "targetPort: ".toList ∧ isArgumentChar ch = false := by
    rcases hch with rfl | rfl
    all_goals decide
  obtain ⟨hquote, hcomma, hport, htargetAfter, htarget, hargument⟩ := hsigns
  have hplain : c.texts = [] → ch ∉ c.arguments.toList := by
    intro hnil hmem
    rw [(hc.plain hnil).argument ch hmem] at hargument
    cases hargument
  -- quotes and what parts two texts are neither
  have hpair : ∀ k v : String, ch ∉ k.toList → ch ∉ v.toList → ch ∉ (literal k ++ ", " ++ literal v).toList := by
    intro k v hk hv
    have hquotes : ch ∉ "\"".toList := by simpa using hquote
    simp only [literal, String.toList_append, List.mem_append, not_or]
    exact ⟨⟨⟨⟨hquotes, hk⟩, hquotes⟩, hcomma⟩, ⟨hquotes, hv⟩, hquotes⟩
  cases c with
  | environment key value =>
    exact hpair key value (htexts key (by simp [ChainCall.texts])) (htexts value (by simp [ChainCall.texts]))
  | bindMount source target =>
    exact hpair source target (htexts source (by simp [ChainCall.texts])) (htexts target (by simp [ChainCall.texts]))
  | endpoint host target =>
    have hlast := htexts target (by simp [ChainCall.texts])
    cases host with
    | none =>
      simp only [ChainCall.arguments, String.toList_append, List.mem_append, not_or]
      exact ⟨htarget, hlast⟩
    | some host =>
      simp only [ChainCall.arguments, String.toList_append, List.mem_append, not_or]
      exact ⟨⟨⟨hport, htexts host (by simp [ChainCall.texts])⟩, htargetAfter⟩, hlast⟩
  | _ => exact hplain rfl

/-! ## Calls and statements with mute texts -/

theorem ChainCall.IsMute.silent (hc : c.IsMute) (h : Bears p name.toList) (hname : name ∈ marks) : c.IsSilent p := by
  have hclear : ∀ m ∈ marks, Clear m.toList := by decide
  exact h.skips (hclear name hname) (contains_eq_false_iff.1 (hc.unmarked name hname)) (by decide)

theorem ChainCall.IsMute.inert (hc : c.IsMute) : c.IsInert where
  line := hc.not_mem_arguments (Or.inl rfl) fun s hs => (hc.texts s hs).line
  resources := hc.silent bears_declaration (by decide)
  databases := hc.silent bears_databaseDeclaration (by decide)

theorem Statement.IsMute.inert (hs : s.IsMute) : s.IsInert :=
  ⟨hs.toIsFramed, fun c hc => (hs.chain c hc).inert⟩

/-- References and numbers are read in calls that have no other texts. -/
theorem ChainCall.IsMute.legible {read : ChainCall → Option α} (hc : c.IsMute) (name : String)
    (h : Bears p name.toList) (hname : name ∈ marks) (htexts : ∀ c, read c ≠ none → c.texts = []) :
    c.IsLegible p read :=
  ⟨fun hread => hc.plain (htexts c hread), fun _ => hc.silent h hname⟩

theorem texts_of_reference? : ∀ c : ChainCall, c.reference? ≠ none → c.texts = [] := by
  intro c hc
  cases c with
  | reference name => rfl
  | _ => exact absurd rfl hc

theorem texts_of_replicaDigits? : ∀ c : ChainCall, c.replicaDigits? ≠ none → c.texts = [] := by
  intro c hc
  cases c with
  | replicas count => rfl
  | _ => exact absurd rfl hc

theorem ChainCall.IsMute.legible_reference (hc : c.IsMute) : c.IsLegible referenceCall ChainCall.reference? :=
  hc.legible ".WithReference" calls_referenceCall.bears (by decide) texts_of_reference?

theorem ChainCall.IsMute.legible_replicas (hc : c.IsMute) : c.IsLegible replicasCall ChainCall.replicaDigits? :=
  hc.legible ".WithReplicas" calls_replicasCall.bears (by decide) texts_of_replicaDigits?

/-! ## Readable fragments -/

/-- A fragment whose number of replicas, if it has one, can be read. -/
def IsReadable (fragment : List Char) : Prop :=
  ∀ digits, first? replicasCall fragment = some digits → ∃ n, readNumeral digits = .ok n

theorem isReadable_of_eq_none {fragment : List Char} (h : first? replicasCall fragment = none) :
    IsReadable fragment := by
  intro digits hdigits
  rw [h] at hdigits
  cases hdigits

/-- The numbers of mute calls can be read. -/
theorem isReadable_of_head? {fragment : List Char} (hchain : ∀ c ∈ chain, c.IsMute)
    (h : first? replicasCall fragment = (chain.filterMap ChainCall.replicaDigits?).head?) : IsReadable fragment := by
  intro digits hdigits
  rw [h] at hdigits
  -- the digits are those of a call, and were written for a number
  rcases List.mem_filterMap.1 (List.mem_of_mem_head? hdigits) with ⟨c, hc, hread⟩
  have hplain := (hchain c hc).plain (texts_of_replicaDigits? c (hread ▸ Option.some_ne_none digits))
  cases c with
  | replicas count =>
    obtain rfl := Option.some.inj hread
    exact ⟨_, readNumeral_toDigits hplain.2⟩
  | _ => cases hread

/-- A statement without semicolons in its texts is one fragment. -/
theorem Statement.IsMute.whole (hs : s.IsMute) (hgap : IsGap gap) (hindent : IsIndent indent)
    (htexts : ∀ c ∈ s.chain, ∀ text ∈ c.texts, ';' ∉ text.toList) :
    splitAll (· = ';') (gap ++ stem indent s) = [gap ++ stem indent s] ∧
      all referenceCall (gap ++ stem indent s) = s.references ∧ IsReadable (gap ++ stem indent s) := by
  refine ⟨splitAll_of_not_mem ?_, ?_, ?_⟩
  · rw [stem_eq, List.mem_append, not_or]
    refine ⟨semicolon_not_mem_opening hgap hs.toIsFramed, fun hmem => ?_⟩
    rcases List.mem_flatMap.1 hmem with ⟨c, hc, hmem⟩
    exact semicolon_not_mem_call hindent ((hs.chain c hc).not_mem_arguments (Or.inr rfl) (htexts c hc)) hmem
  · exact reads_reference.all_stem (by decide) hgap hindent hs.toIsFramed fun c hc =>
      (hs.chain c hc).legible_reference
  · exact isReadable_of_head? hs.chain (reads_replicas.first?_stem (by decide) hgap hindent hs.toIsFramed
      fun c hc => (hs.chain c hc).legible_replicas)

/-! ## Fragments of a chain -/

/-- A mark that no call has for its method does not stand in the chain. -/
theorem not_infix_chain (hindent : IsIndent indent) (name : String) (hmark : "." ++ name ∈ marks)
    (hchain : ∀ c ∈ chain, c.IsMute ∧ ¬ name.toList <+: c.method.toList) :
    ¬ ("." ++ name).toList <:+: chain.flatMap (callText indent) := by
  have hmarks : ∀ m ∈ marks, '(' ∉ m.toList ∧ ')' ∉ m.toList := by decide
  obtain ⟨hopen, hclose⟩ := hmarks _ hmark
  -- no mark goes over a parenthesis, so that each call can be looked at alone
  rw [← contains_eq_false_iff]
  induction chain with
  | nil => simp [contains]
  | cons c chain ih =>
    obtain ⟨hmute, hmethod⟩ := hchain c List.mem_cons_self
    have htail := ih fun c' hc' => hchain c' (List.mem_cons_of_mem c hc')
    -- the one dot of the line stands before another method
    have hline : contains ("." ++ name).toList (('\n' :: indent) ++ '.' :: c.method.toList) = false := by
      rw [contains_eq_false_iff]
      rintro ⟨before, after, htext⟩
      have hdot : before ++ ("." ++ name).toList ++ after = before ++ '.' :: (name.toList ++ after) := by
        rw [String.toList_append, List.append_assoc, List.append_assoc]
        rfl
      rw [hdot] at htext
      rcases (List.append_cons_inj_of_notMem (hindent.not_mem (by decide))
        (not_mem_of_isAlphanum (isAlphanum_method c) (by decide))).1 htext.symm with ⟨-, -, hafter⟩
      exact hmethod ⟨after, hafter.symm⟩
    have htext : (c :: chain).flatMap (callText indent) = (('\n' :: indent) ++ '.' :: c.method.toList) ++
        '(' :: (c.arguments.toList ++ ')' :: chain.flatMap (callText indent)) := by
      simp only [List.flatMap_cons, callText, toList_render, List.append_assoc, List.cons_append, List.nil_append]
    rw [htext, contains_append_cons hopen, contains_append_cons hclose, hline, hmute.unmarked _ hmark, htail]
    rfl

theorem not_infix_reference (hindent : IsIndent indent) (hchain : ∀ c ∈ chain, c.IsMute ∧ c.reference? = none) :
    ¬ ".WithReference".toList <:+: chain.flatMap (callText indent) := by
  refine not_infix_chain hindent "WithReference" (by decide) fun c hc => ⟨(hchain c hc).1, ?_⟩
  have hreference := (hchain c hc).2
  cases c with
  | reference name => cases hreference
  | _ =>
    simp only [ChainCall.method]
    decide

theorem not_infix_replicas (hindent : IsIndent indent) (hchain : ∀ c ∈ chain, c.IsMute ∧ c.number? = none) :
    ¬ ".WithReplicas".toList <:+: chain.flatMap (callText indent) := by
  refine not_infix_chain hindent "WithReplicas" (by decide) fun c hc => ⟨(hchain c hc).1, ?_⟩
  have hnumber := (hchain c hc).2
  cases c with
  | replicas count => cases hnumber
  | _ =>
    simp only [ChainCall.method]
    decide

/-- Where only the last call has a number, that call is in the last fragment, and whole. -/
theorem isReadable_of_mem_splitAll (hindent : IsIndent indent) {count : Option Int}
    (hfront : ∀ c ∈ chain, c.IsMute ∧ c.number? = none)
    (hlast : ∀ c ∈ count.toList.map ChainCall.replicas, c.IsMute) :
    ∀ f ∈ splitAll (· = ';') ((chain ++ count.toList.map ChainCall.replicas).flatMap (callText indent)),
      IsReadable f := by
  have hsemicolon : ∀ ch ∈ (count.toList.map ChainCall.replicas).flatMap (callText indent),
      decide (ch = ';') = false := by
    intro ch hch
    refine decide_eq_false ?_
    rintro rfl
    rcases List.mem_flatMap.1 hch with ⟨c, hc, hmem⟩
    rcases List.mem_map.1 hc with ⟨n, -, rfl⟩
    exact semicolon_not_mem_call hindent
      ((hlast _ hc).not_mem_arguments (Or.inr rfl) fun s hs => absurd hs List.not_mem_nil) hmem
  -- the call with the number has no semicolon, so that the last fragment ends with all of it
  obtain ⟨init, last, hpieces, hsplit⟩ := exists_splitAll_append hsemicolon (chain.flatMap (callText indent))
  have hpart : ∀ part ∈ init ++ [last], ¬ ".WithReplicas".toList <:+: part := by
    intro part hmem hoccurs
    rw [← hpieces] at hmem
    exact not_infix_replicas hindent hfront (hoccurs.trans (infix_of_mem_splitAll hmem))
  intro f hf
  rw [List.flatMap_append, hsplit] at hf
  rcases List.mem_append.1 hf with hf | hf
  · exact isReadable_of_eq_none (calls_replicasCall.bears.first?_eq_none (hpart f (List.mem_append_left _ hf)))
  · rw [List.mem_singleton.1 hf]
    have hstart : ∀ d ∈ ((count.toList.map ChainCall.replicas).flatMap (callText indent)).head?,
        d ∉ ".WithReplicas".toList := by
      intro d hd
      cases count with
      | none => cases hd
      | some n =>
        rw [← Option.some.inj hd]
        decide
    have hskip := calls_replicasCall.skips_of_not_infix
      (hpart last (List.mem_append_right _ (List.mem_singleton_self last))) hstart
    refine isReadable_of_head? hlast ?_
    rw [first?_of_skips hskip, reads_replicas.first?_chain hindent fun c hc => (hlast c hc).legible_replicas]

/-- Calls that are no references, and of which only the last one has a number, can be cut anywhere. -/
theorem fragments_chain (hindent : IsIndent indent) {count : Option Int}
    (hchain : ∀ c ∈ chain ++ count.toList.map ChainCall.replicas, c.IsMute ∧ c.reference? = none)
    (hcount : ∀ c ∈ chain, c.number? = none) :
    ∀ f ∈ splitAll (· = ';') ((chain ++ count.toList.map ChainCall.replicas).flatMap (callText indent)),
      all referenceCall f = [] ∧ IsReadable f := by
  have hfront : ∀ c ∈ chain, c.IsMute ∧ c.number? = none := fun c hc =>
    ⟨(hchain c (List.mem_append_left _ hc)).1, hcount c hc⟩
  have hlast : ∀ c ∈ count.toList.map ChainCall.replicas, c.IsMute := fun c hc =>
    (hchain c (List.mem_append_right _ hc)).1
  intro f hf
  constructor
  · exact calls_referenceCall.bears.all_eq_nil fun hoccurs =>
      not_infix_reference hindent hchain (hoccurs.trans (infix_of_mem_splitAll hf))
  · exact isReadable_of_mem_splitAll hindent hfront hlast f hf

/-- Without references a statement can be cut anywhere. -/
theorem Statement.IsMute.fragments (hs : s.IsMute) (hgap : IsGap gap) (hindent : IsIndent indent)
    {count : Option Int} (hchain : s.chain = chain ++ count.toList.map ChainCall.replicas)
    (hlinks : ∀ c ∈ s.chain, c.reference? = none) (hcount : ∀ c ∈ chain, c.number? = none) :
    ∀ f ∈ splitAll (· = ';') (gap ++ stem indent s), all referenceCall f = [] ∧ IsReadable f := by
  have hmute := hs.chain
  rw [hchain] at hmute hlinks
  have hfragments := fragments_chain hindent (fun c hc => ⟨hmute c hc, hlinks c hc⟩) hcount
  rw [← hchain] at hfragments
  -- the opening belongs to the first fragment and has no calls
  obtain ⟨first, rest, hsplit, -⟩ := exists_splitAll (· = ';') (s.chain.flatMap (callText indent))
  have hopening := semicolon_not_mem_opening hgap hs.toIsFramed
  have hnot : ∀ c ∈ gap ++ ("var ".toList ++ (s.name.toList ++ (" = ".toList ++ s.opening.render.toList))),
      decide (c = ';') = false := by
    intro c hc
    refine decide_eq_false ?_
    rintro rfl
    exact hopening hc
  have hall := splitAll_append_of_not_isSep hnot hsplit
  rw [← stem_eq] at hall
  intro f hf
  rw [hall] at hf
  rw [hsplit] at hfragments
  rcases List.mem_cons.1 hf with rfl | hf
  · obtain ⟨hreferences, hreadable⟩ := hfragments first List.mem_cons_self
    constructor
    · rw [all_of_skips (reads_reference.calls.skips_opening reads_reference.clear (by decide) hgap hs.toIsFramed _),
        hreferences]
    · rw [IsReadable, first?_of_skips (reads_replicas.calls.skips_opening reads_replicas.clear (by decide) hgap
        hs.toIsFramed _)]
      exact hreadable
  · exact hfragments f (List.mem_cons_of_mem first hf)

end AppHost
end HostTopology
