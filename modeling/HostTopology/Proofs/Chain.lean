import HostTopology.AppHost.Declaration
import HostTopology.Proofs.Calls

/-!
# Chain — chained calls as text, and what is read in them

Every chained call stands on a line of its own: an indent, a method and its arguments. Arguments of
the kinds that `ChainCall.IsPlain` names hold no opening bracket, so nothing begins inside them.

* `Reads p name read` — of each call, `p` reads what `read` tells, and passes over the others;
* `Reads.all_chain`, `Reads.first?_chain` — the same for a chain.
-/

namespace HostTopology
namespace AppHost

open Text Scan

variable {α : Type} {p : Scan α} {T : List Char → Prop} {name indent ys : List Char} {c : ChainCall}
  {chain : List ChainCall}

/-! ## Plain texts -/

/-- Letters, digits, spaces and the signs of paths and addresses. -/
def isPlainChar (c : Char) : Bool :=
  c.isAlphanum || [' ', '_', '-', '.', '/', ':', ',', '@', '='].contains c

/-- A text of plain characters that does not speak of a persistent lifetime. -/
structure IsPlain (s : String) : Prop where
  chars : ∀ c ∈ s.toList, isPlainChar c = true
  unmarked : contains persistentMark.toList s.toList = false

theorem lt_of_isPlainChar {c : Char} (h : isPlainChar c = true) : c.toNat < 128 := by
  simp only [isPlainChar, Bool.or_eq_true, List.contains_iff_mem] at h
  rcases h with h | h
  · exact lt_of_isAlphanum h
  · revert c
    decide

theorem of_isPlainChar {P : Char → Prop}
    (h : ∀ n : Fin 128, isPlainChar (Char.ofNat n) = true → P (Char.ofNat n)) {c : Char}
    (hc : isPlainChar c = true) : P c :=
  of_ascii (P := fun c => isPlainChar c = true → P c) h (lt_of_isPlainChar hc) hc

theorem IsPlain.clear {s : String} (h : IsPlain s) : Clear s.toList := by
  intro c hc
  exact of_isPlainChar (P := fun c => isDelimiter c = false) (by decide) (h.chars c hc)

theorem IsPlain.quote_not_mem {s : String} (h : IsPlain s) : '"' ∉ s.toList := by
  intro hmem
  exact absurd (h.clear _ hmem) (by decide)

/-- A character that ends no argument and no line. -/
def isArgumentChar (c : Char) : Bool :=
  c ≠ '(' && c ≠ '<' && c ≠ ';' && c ≠ '\n'

theorem IsPlain.argument {s : String} (h : IsPlain s) : ∀ c ∈ s.toList, isArgumentChar c = true := by
  intro c hc
  exact of_isPlainChar (P := fun c => isArgumentChar c = true) (by decide) (h.chars c hc)

theorem argument_of_isAlphanum {xs : List Char} (h : ∀ c ∈ xs, c.isAlphanum = true) :
    ∀ c ∈ xs, isArgumentChar c = true := by
  intro c hc
  exact of_isAlphanum (P := fun c => isArgumentChar c = true) (by decide) (h c hc)

/-! ## Calls -/

/-- A call with the arguments that an AppHost without ports has. -/
def ChainCall.IsPlain : ChainCall → Prop
  | persistentLifetime => True
  | portFromEnv => True
  | endpoint host target => host = none ∧ target = "8080"
  | environment key value => AppHost.IsPlain key ∧ AppHost.IsPlain value
  | bindMount source target => AppHost.IsPlain source ∧ AppHost.IsPlain target
  | replicas count => 1 < count ∧ count.natAbs < numeralBound
  | reference name => IsVariable name
  | waitFor name => IsVariable name

theorem isAlphanum_method (c : ChainCall) : ∀ ch ∈ c.method.toList, ch.isAlphanum = true := by
  cases c
  all_goals
    simp only [ChainCall.method]
    decide

theorem toList_render (c : ChainCall) :
    c.render.toList = '.' :: (c.method.toList ++ '(' :: (c.arguments.toList ++ [')'])) := by
  simp [ChainCall.render]

theorem toString_eq_toDigits {n : Int} (h : 1 < n) : (toString n).toList = Nat.toDigits 10 n.natAbs := by
  rcases Int.eq_ofNat_of_zero_le (by omega : 0 ≤ n) with ⟨k, rfl⟩
  exact Nat.toList_repr

theorem isDigit_toString {n : Int} (h : 1 < n) : ∀ c ∈ (toString n).toList, c.isDigit = true := by
  intro c hc
  rw [toString_eq_toDigits h] at hc
  exact Nat.isDigit_of_mem_toDigits (by decide) (by decide) hc

theorem isAlphanum_of_isDigit {c : Char} (h : c.isDigit = true) : c.isAlphanum = true := by
  rw [Char.isAlphanum, h, Bool.or_true]

theorem argument_append {s t : String} (hs : ∀ c ∈ s.toList, isArgumentChar c = true)
    (ht : ∀ c ∈ t.toList, isArgumentChar c = true) : ∀ c ∈ (s ++ t).toList, isArgumentChar c = true := by
  rw [String.toList_append]
  exact List.forall_mem_append.2 ⟨hs, ht⟩

theorem argument_literal {s : String} (hs : ∀ c ∈ s.toList, isArgumentChar c = true) :
    ∀ c ∈ (literal s).toList, isArgumentChar c = true := by
  have hquote : ∀ c ∈ "\"".toList, isArgumentChar c = true := by decide
  exact argument_append (argument_append hquote hs) hquote

theorem ChainCall.IsPlain.argument (h : c.IsPlain) : ∀ ch ∈ c.arguments.toList, isArgumentChar ch = true := by
  have hcomma : ∀ ch ∈ ", ".toList, isArgumentChar ch = true := by decide
  cases c with
  | persistentLifetime =>
    change ∀ ch ∈ "ContainerLifetime.Persistent".toList, isArgumentChar ch = true
    decide
  | portFromEnv =>
    change ∀ ch ∈ ("env: " ++ literal "PORT").toList, isArgumentChar ch = true
    decide
  | endpoint host target =>
    rcases h with ⟨rfl, rfl⟩
    change ∀ ch ∈ ("targetPort: " ++ "8080").toList, isArgumentChar ch = true
    decide
  | environment key value =>
    exact argument_append (argument_append (argument_literal h.1.argument) hcomma)
      (argument_literal h.2.argument)
  | bindMount source target =>
    exact argument_append (argument_append (argument_literal h.1.argument) hcomma)
      (argument_literal h.2.argument)
  | replicas count =>
    exact argument_of_isAlphanum fun ch hch => isAlphanum_of_isDigit (isDigit_toString h.1 ch hch)
  | reference name => exact argument_of_isAlphanum h.isAlphanum
  | waitFor name => exact argument_of_isAlphanum h.isAlphanum

/-! ## Calls in a text -/

def callText (indent : List Char) (c : ChainCall) : List Char :=
  '\n' :: (indent ++ c.render.toList)

/-- A line up to the opening bracket, and the arguments. -/
theorem callText_eq (indent : List Char) (c : ChainCall) : callText indent c =
    (('\n' :: indent) ++ '.' :: c.method.toList ++ ['(']) ++ (c.arguments.toList ++ [')']) := by
  simp [callText, toList_render]

theorem not_mem_arguments (h : c.IsPlain) : '(' ∉ c.arguments.toList ∧ '<' ∉ c.arguments.toList := by
  refine ⟨fun hmem => ?_, fun hmem => ?_⟩
  · exact absurd (h.argument _ hmem) (by decide)
  · exact absurd (h.argument _ hmem) (by decide)

/-- The indent of a chained call. -/
def IsIndent (indent : List Char) : Prop :=
  ∀ c ∈ indent, c = ' '

theorem IsIndent.not_mem (h : IsIndent indent) {c : Char} (hc : c ≠ ' ' ∧ c ≠ '\n') :
    c ∉ '\n' :: indent := by
  intro hmem
  rcases List.mem_cons.1 hmem with rfl | hmem
  · exact hc.2 rfl
  · exact hc.1 (h c hmem)

theorem IsIndent.clear (h : IsIndent indent) : Clear ('\n' :: indent) := by
  intro c hc
  rcases List.mem_cons.1 hc with rfl | hc
  · decide
  · rw [h c hc]
    decide

theorem clear_of_isAlphanum {xs : List Char} (h : ∀ c ∈ xs, c.isAlphanum = true) : Clear xs :=
  clear_of_isWord fun c hc => isWord_of_isAlphanum (h c hc)

theorem not_mem_of_isAlphanum {xs : List Char} (h : ∀ c ∈ xs, c.isAlphanum = true) {ch : Char}
    (hch : ch.isAlphanum = false) : ch ∉ xs := by
  intro hmem
  rw [h ch hmem] at hch
  cases hch

/-- Nothing that `p` finds begins in the arguments of a call. -/
def ChainCall.IsSilent (p : Scan α) (c : ChainCall) : Prop :=
  ∀ ys, Skips p (c.arguments.toList ++ [')']) ys

theorem ChainCall.IsPlain.silent (hc : c.IsPlain) (h : Opens p) : c.IsSilent p :=
  h.skips (not_mem_arguments hc) (by decide)

theorem Assigns.skips_call (h : Assigns p T) (hindent : IsIndent indent) (hc : c.IsSilent p) (ys : List Char) :
    Skips p (callText indent c) ys := by
  have hmethod := isAlphanum_method c
  rw [callText_eq]
  -- the line up to its bracket has no equality sign
  refine Skips.append (h.skips_of_not_mem ?_ (by decide) ?_ _) ?_
  · exact hindent.clear.append (clear_cons.2 ⟨by decide, clear_of_isAlphanum hmethod⟩)
  · intro hmem
    rcases List.mem_append.1 hmem with hmem | hmem
    · exact hindent.not_mem (by decide) hmem
    · rcases List.mem_cons.1 hmem with hmem | hmem
      · exact absurd hmem (by decide)
      · exact not_mem_of_isAlphanum hmethod (by decide) hmem
  · exact hc ys

theorem Calls.skips_call (h : Calls p ('.' :: name)) (hname : Clear name) (hindent : IsIndent indent)
    (hc : c.IsSilent p) (hne : c.method.toList ≠ name) (ys : List Char) : Skips p (callText indent c) ys := by
  have hmethod := isAlphanum_method c
  rw [callText_eq]
  -- the line has one dot, before another method
  refine Skips.append (h.skips_of_ne hname ?_ ?_ (by decide) ?_ _) ?_
  · exact ⟨hindent.clear, hindent.not_mem (by decide)⟩
  · exact ⟨clear_of_isAlphanum hmethod, not_mem_of_isAlphanum hmethod (by decide),
      fun ch hch => isBlank_of_isAlphanum (hmethod ch hch)⟩
  · intro heq
    exact absurd heq.symm hne
  · exact hc ys

/-! ## What is read in a chain -/

/-- Of a call `p` reads what `read` tells; it passes over calls of other methods. -/
structure Reads (p : Scan α) (name : String) (read : ChainCall → Option α) : Prop where
  calls : Calls p ('.' :: name.toList)
  clear : Clear name.toList
  hit : ∀ c a, c.IsPlain → read c = some a → ∀ ys, p (c.render.toList ++ ys) = some (a, ys)
  other : ∀ c, read c = none → c.method ≠ name

variable {s : String} {read : ChainCall → Option α}

/-- A call that is read is plain, and in another one nothing begins. -/
structure ChainCall.IsLegible (p : Scan α) (read : ChainCall → Option α) (c : ChainCall) : Prop where
  plain : read c ≠ none → c.IsPlain
  silent : read c = none → c.IsSilent p

theorem Reads.opens (h : Reads p s read) : Opens p :=
  h.calls.opens (clear_cons.2 ⟨by decide, h.clear⟩)

theorem Reads.legible (h : Reads p s read) (hc : c.IsPlain) : c.IsLegible p read :=
  ⟨fun _ => hc, fun _ => hc.silent h.opens⟩

theorem Reads.all_call (h : Reads p s read) (hindent : IsIndent indent) (hc : c.IsLegible p read)
    (ys : List Char) :
    all p (callText indent c ++ ys) = (read c).toList ++ all p ys := by
  -- either the call has another method, or it is hit at its dot
  cases hread : read c with
  | none =>
    have hne : c.method.toList ≠ s.toList := fun heq => h.other c hread (String.toList_inj.1 heq)
    rw [all_of_skips (h.calls.skips_call h.clear hindent (hc.silent hread) hne ys)]
    rfl
  | some a =>
    have hplain := hc.plain (hread ▸ Option.some_ne_none a)
    have hskip : Skips p ('\n' :: indent) (c.render.toList ++ ys) :=
      h.calls.skips_of_not_mem (hindent.not_mem (by decide)) _
    have hne : c.render.toList ≠ [] := by
      rw [toList_render]
      exact List.cons_ne_nil _ _
    have htext : callText indent c ++ ys = ('\n' :: indent) ++ (c.render.toList ++ ys) := by
      simp [callText]
    rw [htext, all_of_skips hskip, all_of_hit hne (h.hit c a hplain hread ys)]
    rfl

theorem Reads.all_chain (h : Reads p s read) (hindent : IsIndent indent)
    (hchain : ∀ c ∈ chain, c.IsLegible p read) (ys : List Char) :
    all p (chain.flatMap (callText indent) ++ ys) = chain.filterMap read ++ all p ys := by
  induction chain with
  | nil => rfl
  | cons c chain ih =>
    have htail := ih fun c' hc' => hchain c' (List.mem_cons_of_mem c hc')
    rw [List.flatMap_cons, List.append_assoc, h.all_call hindent (hchain c List.mem_cons_self), htail,
      List.filterMap_cons]
    cases read c <;> rfl

theorem Reads.first?_chain (h : Reads p s read) (hindent : IsIndent indent)
    (hchain : ∀ c ∈ chain, c.IsLegible p read) :
    first? p (chain.flatMap (callText indent)) = (chain.filterMap read).head? := by
  induction chain with
  | nil => rfl
  | cons c chain ih =>
    have hc := hchain c List.mem_cons_self
    have htail := ih fun c' hc' => hchain c' (List.mem_cons_of_mem c hc')
    rw [List.flatMap_cons, List.filterMap_cons]
    cases hread : read c with
    | none =>
      -- another method is passed over
      have hne : c.method.toList ≠ s.toList := fun heq => h.other c hread (String.toList_inj.1 heq)
      rw [first?_of_skips (h.calls.skips_call h.clear hindent (hc.silent hread) hne _), htail]
    | some a =>
      -- the first call of the method is what is found
      have hplain := hc.plain (hread ▸ Option.some_ne_none a)
      have hskip : Skips p ('\n' :: indent) (c.render.toList ++ chain.flatMap (callText indent)) :=
        h.calls.skips_of_not_mem (hindent.not_mem (by decide)) _
      have hne : c.render.toList ++ chain.flatMap (callText indent) ≠ [] := by
        rw [toList_render]
        exact List.cons_ne_nil _ _
      have htext : callText indent c ++ chain.flatMap (callText indent) =
          ('\n' :: indent) ++ (c.render.toList ++ chain.flatMap (callText indent)) := by
        simp [callText]
      rw [htext, first?_of_skips hskip, first?_of_hit hne (h.hit c a hplain hread _)]
      rfl

/-! ## The four kinds of calls that are read -/

theorem openArguments_append {ys : List Char} (hstop : Stops isBlank ys) :
    openArguments ("(".toList ++ ys) = some ((), ys) := by
  have hopen : Stops isBlank ("(".toList ++ ys) := stops_append (by decide) (by decide) ys
  rw [openArguments, bind_apply (blanks_of_stops hopen), bind_apply (literal_append _ _)]
  exact blanks_of_stops hstop

theorem closeArguments_append (ys : List Char) : closeArguments (")".toList ++ ys) = some ((), ys) := by
  have hclose : Stops isBlank (")".toList ++ ys) := stops_append (by decide) (by decide) ys
  rw [closeArguments, bind_apply (blanks_of_stops hclose), literal_append]

theorem stops_quotes (ys : List Char) : Stops isBlank ("\"".toList ++ ys) :=
  stops_append (by decide) (by decide) ys

theorem pairCall_append (method : String) {first second : String} (hfirst : '"' ∉ first.toList)
    (hsecond : '"' ∉ second.toList) (ys : List Char) :
    pairCall method (method.toList ++ ("(".toList ++ ("\"".toList ++ (first.toList ++ ("\"".toList ++
      (",".toList ++ (" ".toList ++ ("\"".toList ++ (second.toList ++ ("\"".toList ++
        (")".toList ++ ys))))))))))) = some ((first, second), ys) := by
  have hcomma : ∀ rest, Stops isBlank (",".toList ++ rest) := stops_append (by decide) (by decide)
  have hspace : ∀ c ∈ " ".toList, isBlank c = true := by decide
  rw [pairCall, bind_apply (literal_append _ _), bind_apply (openArguments_append (stops_quotes _)),
    bind_apply (quoted_append hfirst _), bind_apply (blanks_of_stops (hcomma _)),
    bind_apply (literal_append _ _), bind_apply (blanks_append hspace (stops_quotes _)),
    bind_apply (quoted_append hsecond _), bind_apply (closeArguments_append _)]
  rfl

def ChainCall.environment? : ChainCall → Option (String × String)
  | environment key value => some (key, value)
  | _ => none

def ChainCall.bindMount? : ChainCall → Option (String × String)
  | bindMount source target => some (source, target)
  | _ => none

def ChainCall.reference? : ChainCall → Option String
  | reference name => some name
  | _ => none

/-- The digits of a number of replicas. -/
def ChainCall.replicaDigits? : ChainCall → Option (List Char)
  | replicas count => some (Nat.toDigits 10 count.natAbs)
  | _ => none

theorem reads_environment : Reads (pairCall ".WithEnvironment") "WithEnvironment" ChainCall.environment? where
  calls := calls_pairCall ".WithEnvironment"
  clear := by decide
  hit := by
    intro c a hc hread ys
    cases c with
    | environment key value =>
      rw [← Option.some.inj hread, ← pairCall_append ".WithEnvironment" hc.1.quote_not_mem hc.2.quote_not_mem ys]
      simp [ChainCall.render, ChainCall.method, ChainCall.arguments, literal]
    | _ => cases hread
  other := by
    intro c hread
    cases c with
    | environment key value => cases hread
    | _ =>
      simp only [ChainCall.method]
      decide

theorem reads_bindMount : Reads (pairCall ".WithBindMount") "WithBindMount" ChainCall.bindMount? where
  calls := calls_pairCall ".WithBindMount"
  clear := by decide
  hit := by
    intro c a hc hread ys
    cases c with
    | bindMount source target =>
      rw [← Option.some.inj hread, ← pairCall_append ".WithBindMount" hc.1.quote_not_mem hc.2.quote_not_mem ys]
      simp [ChainCall.render, ChainCall.method, ChainCall.arguments, literal]
    | _ => cases hread
  other := by
    intro c hread
    cases c with
    | bindMount source target => cases hread
    | _ =>
      simp only [ChainCall.method]
      decide

theorem reads_reference : Reads referenceCall "WithReference" ChainCall.reference? where
  calls := calls_referenceCall
  clear := by decide
  hit := by
    intro c a hc hread ys
    cases c with
    | reference name =>
      obtain rfl := Option.some.inj hread
      have hstart : Stops isBlank (name.toList ++ (")".toList ++ ys)) :=
        stops_append hc.toList_ne_nil hc.isBlank _
      have hstop : Stops isWord (")".toList ++ ys) := stops_append (by decide) (by decide) ys
      have htext : (ChainCall.reference name).render.toList ++ ys =
          ".WithReference".toList ++ ("(".toList ++ (name.toList ++ (")".toList ++ ys))) := by
        simp [ChainCall.render, ChainCall.method, ChainCall.arguments]
      rw [htext, referenceCall, bind_apply (literal_append _ _), bind_apply (openArguments_append hstart),
        bind_apply (word_append hc.ne_empty hc.isWord hstop), bind_apply (closeArguments_append _)]
      rfl
    | _ => cases hread
  other := by
    intro c hread
    cases c with
    | reference name => cases hread
    | _ =>
      -- every other call has a method of another name
      simp only [ChainCall.method]
      decide

theorem isDecimal_of_isDigit {c : Char} (h : c.isDigit = true) : isDecimal c = true := by
  rw [isDecimal, decimalValue?_of_isDigit h]
  rfl

theorem reads_replicas : Reads replicasCall "WithReplicas" ChainCall.replicaDigits? where
  calls := calls_replicasCall
  clear := by decide
  hit := by
    intro c a hc hread ys
    cases c with
    | replicas count =>
      obtain rfl := Option.some.inj hread
      have hdigits : ∀ ch ∈ Nat.toDigits 10 count.natAbs, ch.isDigit = true := by
        intro ch hch
        exact Nat.isDigit_of_mem_toDigits (by decide) (by decide) hch
      have hne : Nat.toDigits 10 count.natAbs ≠ [] := Nat.toDigits_ne_nil
      -- the number begins with no blank, and the bracket ends its digits
      have hstart : Stops isBlank (Nat.toDigits 10 count.natAbs ++ (")".toList ++ ys)) := by
        refine stops_append hne ?_ _
        intro ch hch
        exact isBlank_of_isAlphanum (isAlphanum_of_isDigit (hdigits ch hch))
      have hstop : Stops isDecimal (")".toList ++ ys) := stops_append (by decide) (by decide) ys
      have htext : (ChainCall.replicas count).render.toList ++ ys = ".WithReplicas".toList ++
          ("(".toList ++ (Nat.toDigits 10 count.natAbs ++ (")".toList ++ ys))) := by
        rw [← toString_eq_toDigits hc.1]
        simp [ChainCall.render, ChainCall.method, ChainCall.arguments]
      rw [htext, replicasCall, bind_apply (literal_append _ _), bind_apply (openArguments_append hstart),
        bind_apply (someOf_append hne (fun ch hch => isDecimal_of_isDigit (hdigits ch hch)) hstop),
        bind_apply (closeArguments_append _)]
      rfl
    | _ => cases hread
  other := by
    intro c hread
    cases c with
    | replicas count => cases hread
    | _ =>
      simp only [ChainCall.method]
      decide

end AppHost
end HostTopology
