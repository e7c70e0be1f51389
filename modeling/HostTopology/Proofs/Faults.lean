import HostTopology.Proofs.Results
import HostTopology.Yaml.Node.Meaning

/-!
# Faults — from the tokens of a YAML text to its nodes

A text of tokens has a graph of nodes, or one of three things is wrong with it: it is malformed, its
collections are nested too deeply, or it breaks off at a token.

* `Keeps` — a state program keeps an invariant, and its failures have a property; with one lemma for each way
  to put programs together, a proof follows the text of the program;
* `Reader.KeepsGrammar` — the functions of the grammar, which call each other, with some fuel;
* `Graph.failsIn_ofText` — the whole text.
-/

namespace HostTopology
namespace Yaml

/-! ## Programs that keep an invariant -/

section Programs

variable {σ ε α β : Type} {I J : σ → Prop} {P : ε → Prop} {m : StateT σ (Except ε) α}

/-- From a state with an invariant, a program leads to such states only, and fails only in ways with a
property. -/
def Keeps (I : σ → Prop) (P : ε → Prop) (m : StateT σ (Except ε) α) : Prop :=
  ∀ s, I s → (m s).FailsIn P ∧ ∀ a s', m s = .ok (a, s') → I s'

namespace Keeps

theorem pure (a : α) : Keeps I P (Pure.pure a : StateT σ (Except ε) α) := by
  intro s hs
  refine ⟨Except.failsIn_pure (a, s), ?_⟩
  rintro b s' ⟨⟩
  exact hs

theorem throw {e : ε} (h : P e) : Keeps I P (throw e : StateT σ (Except ε) α) :=
  fun _ _ => ⟨Except.failsIn_error_iff.2 h, nofun⟩

/-- What comes after a program can build on what its results are like. -/
theorem bind_of {Q : α → Prop} {f : α → StateT σ (Except ε) β} (hm : Keeps I P m)
    (hQ : ∀ s a s', I s → m s = .ok (a, s') → Q a) (hf : ∀ a, Q a → Keeps I P (f a)) : Keeps I P (m >>= f) := by
  intro s hs
  rcases hm s hs with ⟨hfails, hleads⟩
  refine ⟨Except.failsIn_bind_iff.2 ⟨hfails, ?_⟩, ?_⟩
  · rintro ⟨a, s'⟩ ha
    exact (hf a (hQ s a s' hs ha) s' (hleads a s' ha)).1
  · intro b s'' hb
    rcases Except.bind_eq_ok_iff.1 hb with ⟨⟨a, s'⟩, ha, hb⟩
    exact (hf a (hQ s a s' hs ha) s' (hleads a s' ha)).2 b s'' hb

theorem bind {f : α → StateT σ (Except ε) β} (hm : Keeps I P m) (hf : ∀ a, Keeps I P (f a)) :
    Keeps I P (m >>= f) :=
  hm.bind_of (Q := fun _ => True) (fun _ _ _ _ _ => trivial) fun a _ => hf a

theorem map {f : α → β} (hm : Keeps I P m) : Keeps I P (f <$> m) :=
  hm.bind fun a => pure (f a)

/-- The state that is looked at has the invariant. -/
theorem get_bind {f : σ → StateT σ (Except ε) β} (hf : ∀ s, I s → Keeps I P (f s)) : Keeps I P (get >>= f) :=
  fun s hs => hf s hs s hs

theorem modify {f : σ → σ} (hf : ∀ s, I s → I (f s)) : Keeps I P (modify f : StateT σ (Except ε) PUnit) := by
  intro s hs
  refine ⟨Except.failsIn_pure _, ?_⟩
  rintro a s' ⟨⟩
  exact hf s hs

theorem modifyGet {f : σ → α × σ} (hf : ∀ s, I s → I (f s).2) :
    Keeps I P (modifyGet f : StateT σ (Except ε) α) := by
  intro s hs
  refine ⟨Except.failsIn_pure (f s), ?_⟩
  intro a s' h
  have hleads : f s = (a, s') := Except.ok.inj h
  simpa [hleads] using hf s hs

theorem lift {x : Except ε α} (h : x.FailsIn P) : Keeps I P (liftM x : StateT σ (Except ε) α) := by
  intro s hs
  cases x with
  | error e => exact throw (Except.failsIn_error_iff.1 h) s hs
  | ok a => exact pure a s hs

theorem lift_bind {x : Except ε α} {f : α → StateT σ (Except ε) β} (h : x.FailsIn P)
    (hf : ∀ a, x = .ok a → Keeps I P (f a)) : Keeps I P (liftM x >>= f) := by
  refine (lift h).bind_of ?_ hf
  rintro s a s' - ha
  cases x with
  | error e => cases ha
  | ok b =>
    cases ha
    rfl

theorem ite {c : Prop} [Decidable c] {m' : StateT σ (Except ε) α} (hm : Keeps I P m) (hm' : Keeps I P m') :
    Keeps I P (if c then m else m') := by
  by_cases h : c
  · rwa [if_pos h]
  · rwa [if_neg h]

theorem forM {f : α → StateT σ (Except ε) PUnit} (hf : ∀ a, Keeps I P (f a)) :
    ∀ l : List α, Keeps I P (l.forM f)
  | [] => pure ()
  | a :: l => (hf a).bind fun _ => forM hf l

theorem mapM {f : α → StateT σ (Except ε) β} (hf : ∀ a, Keeps I P (f a)) :
    ∀ l : List α, Keeps I P (l.mapM f)
  | [] => by
    rw [List.mapM_nil]
    exact pure []
  | a :: l => by
    rw [List.mapM_cons]
    exact (hf a).bind fun b => (mapM hf l).bind fun bs => pure (b :: bs)

theorem foldlM {f : β → α → StateT σ (Except ε) β} (hf : ∀ b a, Keeps I P (f b a)) :
    ∀ (l : List α) (b : β), Keeps I P (l.foldlM f b)
  | [], b => pure b
  | a :: l, b => (hf b a).bind fun b' => foldlM hf l b'

end Keeps
end Programs

/-! ## Tokens -/

variable {P : Fault → Prop}

namespace Reader

/-- The faults that are still among the tokens have a property. -/
def Admits (P : Fault → Prop) (s : ReaderState) : Prop :=
  ∀ fault, .broken fault ∈ s.tokens → P fault

variable {α : Type}

theorem keeps_peek : Keeps (Admits P) P peek := by
  refine Keeps.get_bind fun s hs => ?_
  split
  -- only here does a broken token become a failure of the reader
  · rename_i fault hhead
    have hmem : Token.broken fault ∈ s.tokens := by
      cases htokens : s.tokens with
      | nil => simp [htokens] at hhead
      | cons t ts => simp_all
    exact Keeps.throw (hs fault hmem)
  · exact Keeps.pure _

theorem keeps_skip : Keeps (Admits P) P skip :=
  Keeps.modify fun _ hs fault hfault => hs fault (List.mem_of_mem_tail hfault)

theorem keeps_addNode (x : Node) : Keeps (Admits P) P (addNode x) :=
  Keeps.modifyGet fun _ hs => hs

theorem keeps_setNode (id : Nat) (x : Node) : Keeps (Admits P) P (setNode id x) :=
  Keeps.modify fun _ hs => hs

theorem keeps_accept (t : Token) : Keeps (Admits P) P (accept t) :=
  keeps_peek.bind fun _ => Keeps.ite (keeps_skip.bind fun _ => Keeps.pure true) (Keeps.pure false)

theorem keeps_nextIsOneOf (ts : List Token) : Keeps (Admits P) P (nextIsOneOf ts) :=
  keeps_peek.bind fun t => Keeps.pure (ts.contains t)

theorem keeps_anchor? : Keeps (Admits P) P anchor? := by
  refine keeps_peek.bind fun t => ?_
  split
  · exact keeps_skip.bind fun _ => Keeps.pure _
  · exact Keeps.pure none

theorem keeps_tagParts? : Keeps (Admits P) P tagParts? := by
  refine keeps_peek.bind fun t => ?_
  split
  · exact keeps_skip.bind fun _ => Keeps.pure _
  · exact Keeps.pure none

section Malformed

variable (hmalformed : P .malformed)

include hmalformed

theorem keeps_fail : Keeps (Admits P) P (fail : Reader α) :=
  Keeps.throw hmalformed

theorem keeps_expect (t : Token) : Keeps (Admits P) P (expect t) :=
  keeps_peek.bind fun _ => Keeps.ite keeps_skip (keeps_fail hmalformed)

theorem keeps_setAnchor (name : Option String) (id : Nat) : Keeps (Admits P) P (setAnchor name id) := by
  rw [setAnchor.eq_def]
  split
  · exact Keeps.pure ()
  · exact Keeps.get_bind fun _ _ => Keeps.ite (Keeps.throw hmalformed) (Keeps.modify fun _ hs => hs)

theorem keeps_leaf (name : Option String) (x : Node) : Keeps (Admits P) P (leaf name x) :=
  (keeps_addNode x).bind fun id => (keeps_setAnchor hmalformed name id).bind fun _ => Keeps.pure id

theorem keeps_resolveTag (parts : Option (Option String × String)) : Keeps (Admits P) P (resolveTag parts) := by
  rw [resolveTag.eq_def]
  split
  · exact Keeps.pure none
  · exact Keeps.pure _
  · refine Keeps.get_bind fun s _ => ?_
    split
    · exact Keeps.pure _
    · exact Keeps.throw hmalformed

theorem keeps_properties : Keeps (Admits P) P properties := by
  refine keeps_anchor?.bind fun name => ?_
  split
  · exact keeps_tagParts?.bind fun parts => (keeps_resolveTag hmalformed parts).bind fun _ => Keeps.pure _
  · refine keeps_tagParts?.bind fun parts => ?_
    split
    · exact keeps_anchor?.bind fun _ => (keeps_resolveTag hmalformed _).bind fun _ => Keeps.pure _
    · exact Keeps.pure _

theorem keeps_separator (first : Bool) : Keeps (Admits P) P (separator first) :=
  Keeps.ite (Keeps.pure ()) (keeps_expect hmalformed .flowEntry)

/-! ### Directives -/

theorem keeps_directives (n : Nat) (versioned : Bool) (handles : List (String × String)) :
    Keeps (Admits P) P (directives n versioned handles) := by
  induction n generalizing versioned handles with
  | zero => exact keeps_fail hmalformed
  | succ n ih =>
    refine keeps_peek.bind fun t => ?_
    split
    · exact Keeps.ite (Keeps.throw hmalformed) (keeps_skip.bind fun _ => ih true handles)
    · exact Keeps.ite (Keeps.throw hmalformed) (keeps_skip.bind fun _ => ih versioned _)
    · exact keeps_skip.bind fun _ => ih versioned handles
    · exact Keeps.modify fun _ hs => hs

omit hmalformed in
theorem keeps_skipDocumentEnds (n : Nat) : Keeps (Admits P) P (skipDocumentEnds n) := by
  induction n with
  | zero => exact Keeps.pure ()
  | succ n ih => exact (keeps_accept .documentEnd).bind fun _ => Keeps.ite ih (Keeps.pure ())

theorem keeps_documentStart? (fuel : Nat) : Keeps (Admits P) P (documentStart? fuel) := by
  refine (keeps_skipDocumentEnds fuel).bind fun _ => keeps_peek.bind fun t => Keeps.ite (Keeps.pure false) ?_
  refine (keeps_directives hmalformed fuel false []).bind fun _ => ?_
  exact (keeps_expect hmalformed .documentStart).bind fun _ => Keeps.pure true

/-! ### Nodes -/

variable (hdeep : P .tooDeep)

include hdeep

theorem keeps_collection (name : Option String) (make : List α → Node) {parts : Reader (List α)}
    (hparts : Keeps (Admits P) P parts) : Keeps (Admits P) P (collection name make parts) := by
  refine (keeps_addNode _).bind fun id => (keeps_setAnchor hmalformed name id).bind fun _ => ?_
  refine Keeps.get_bind fun s _ => Keeps.ite (Keeps.throw hdeep) ?_
  refine Keeps.bind (Keeps.modify fun _ hs => hs) fun _ => hparts.bind fun _ => ?_
  refine (keeps_setNode id _).bind fun _ => ?_
  exact Keeps.bind (Keeps.modify fun _ hs => hs) fun _ => Keeps.pure id

/-- The grammar functions with some fuel. -/
structure KeepsGrammar (P : Fault → Prop) (n : Nat) : Prop where
  node : ∀ block indentless, Keeps (Admits P) P (node n block indentless)
  nodeUnless : ∀ stops block indentless, Keeps (Admits P) P (nodeUnless n stops block indentless)
  blockItems : Keeps (Admits P) P (blockItems n)
  indentlessEntries : Keeps (Admits P) P (indentlessEntries n)
  blockEntries : Keeps (Admits P) P (blockEntries n)
  flowItems : ∀ first, Keeps (Admits P) P (flowItems n first)
  flowEntries : ∀ first, Keeps (Admits P) P (flowEntries n first)

omit hdeep in
theorem keepsGrammar_zero : KeepsGrammar P 0 where
  node := fun _ _ => keeps_fail hmalformed
  nodeUnless := fun _ _ _ => keeps_fail hmalformed
  blockItems := keeps_fail hmalformed
  indentlessEntries := keeps_fail hmalformed
  blockEntries := keeps_fail hmalformed
  flowItems := fun _ => keeps_fail hmalformed
  flowEntries := fun _ => keeps_fail hmalformed

theorem keeps_node_succ {n : Nat} (h : KeepsGrammar P n) (block indentless : Bool) :
    Keeps (Admits P) P (node (n + 1) block indentless) := by
  refine keeps_peek.bind fun t => ?_
  split
  · refine keeps_skip.bind fun _ => Keeps.get_bind fun s _ => ?_
    split
    · exact Keeps.pure _
    · exact Keeps.throw hmalformed
  · refine (keeps_properties hmalformed).bind fun ⟨name, t⟩ => ?_
    -- the parts of a collection are read with one step less
    have hsequence : ∀ {parts : Reader (List Nat)}, Keeps (Admits P) P parts →
        Keeps (Admits P) P (collection name (Node.sequence (collectionTag t Node.sequenceTag)) parts) :=
      keeps_collection hmalformed hdeep name _
    have hmapping : ∀ {parts : Reader (List (Nat × Nat))}, Keeps (Admits P) P parts →
        Keeps (Admits P) P (collection name (Node.mapping (collectionTag t Node.mappingTag)) parts) :=
      keeps_collection hmalformed hdeep name _
    have habsent : Keeps (Admits P) P
        (if name.isSome || t.isSome then leaf name (scalarNode t true (.whole "")) else fail) :=
      Keeps.ite (keeps_leaf hmalformed name _) (keeps_fail hmalformed)
    refine keeps_peek.bind fun next => ?_
    split
    · exact Keeps.ite (hsequence h.indentlessEntries) habsent
    · exact keeps_skip.bind fun _ => keeps_leaf hmalformed name _
    · exact keeps_skip.bind fun _ => hsequence (h.flowItems true)
    · exact keeps_skip.bind fun _ => hmapping (h.flowEntries true)
    · exact Keeps.ite (keeps_skip.bind fun _ => hsequence h.blockItems) habsent
    · exact Keeps.ite (keeps_skip.bind fun _ => hmapping h.blockEntries) habsent
    · exact habsent

theorem keepsGrammar_succ {n : Nat} (h : KeepsGrammar P n) : KeepsGrammar P (n + 1) where
  node := keeps_node_succ hmalformed hdeep h
  nodeUnless := fun stops block indentless =>
    (keeps_nextIsOneOf stops).bind fun _ => Keeps.ite (keeps_addNode _) (h.node block indentless)
  blockItems := by
    refine (keeps_accept _).bind fun _ => Keeps.ite ?_ ?_
    · exact (h.nodeUnless _ _ _).bind fun x => h.blockItems.bind fun _ => Keeps.pure _
    · exact (keeps_expect hmalformed _).bind fun _ => Keeps.pure _
  indentlessEntries := by
    refine (keeps_accept _).bind fun _ => Keeps.ite ?_ (Keeps.pure _)
    exact (h.nodeUnless _ _ _).bind fun x => h.indentlessEntries.bind fun _ => Keeps.pure _
  blockEntries := by
    refine (keeps_accept _).bind fun _ => Keeps.ite ?_ ?_
    · refine (h.nodeUnless _ _ _).bind fun k => (keeps_accept _).bind fun _ => ?_
      have hrest : ∀ v, Keeps (Admits P) P (do return (k, v) :: (← blockEntries n)) :=
        fun v => h.blockEntries.bind fun _ => Keeps.pure _
      exact Keeps.ite ((h.nodeUnless _ _ _).bind hrest) ((keeps_addNode _).bind hrest)
    · exact (keeps_expect hmalformed _).bind fun _ => Keeps.pure _
  flowItems := by
    intro first
    have hrest : ∀ x, Keeps (Admits P) P (do return x :: (← flowItems n false)) :=
      fun x => (h.flowItems false).bind fun _ => Keeps.pure _
    refine (keeps_accept _).bind fun _ => Keeps.ite (Keeps.pure _) ?_
    refine (keeps_separator hmalformed first).bind fun _ => (keeps_accept _).bind fun _ => Keeps.ite ?_ ?_
    · -- a single pair is a mapping of its own
      refine (h.nodeUnless _ _ _).bind fun k => (keeps_accept _).bind fun _ => ?_
      have hpair : ∀ v, Keeps (Admits P) P (do
          let x ← addNode (.mapping Node.mappingTag [(k, v)])
          return x :: (← flowItems n false)) :=
        fun v => (keeps_addNode _).bind hrest
      exact Keeps.ite ((h.nodeUnless _ _ _).bind hpair) ((keeps_addNode _).bind hpair)
    · exact (keeps_accept _).bind fun _ => Keeps.ite (Keeps.pure _) ((h.node _ _).bind hrest)
  flowEntries := by
    intro first
    have hrest : ∀ k v, Keeps (Admits P) P (do return (k, v) :: (← flowEntries n false)) :=
      fun k v => (h.flowEntries false).bind fun _ => Keeps.pure _
    refine (keeps_accept _).bind fun _ => Keeps.ite (Keeps.pure _) ?_
    refine (keeps_separator hmalformed first).bind fun _ => (keeps_accept _).bind fun _ => Keeps.ite ?_ ?_
    · refine (h.nodeUnless _ _ _).bind fun k => (keeps_accept _).bind fun _ => ?_
      exact Keeps.ite ((h.nodeUnless _ _ _).bind (hrest k)) ((keeps_addNode _).bind (hrest k))
    · refine (keeps_accept _).bind fun _ => Keeps.ite (Keeps.pure _) ?_
      exact (h.node _ _).bind fun k => (keeps_addNode _).bind (hrest k)

theorem keepsGrammar (n : Nat) : KeepsGrammar P n := by
  -- every function of the grammar calls the others with less fuel, so all of them go through one induction
  induction n with
  | zero => exact keepsGrammar_zero hmalformed
  | succ n ih => exact keepsGrammar_succ hmalformed hdeep ih

/-! ### Documents -/

theorem keeps_markedDocument (fuel : Nat) : Keeps (Admits P) P (markedDocument fuel) := by
  have hnode := (keepsGrammar hmalformed hdeep fuel).node true false
  exact keeps_peek.bind fun _ => Keeps.ite (keeps_addNode _) hnode

theorem keeps_document (fuel : Nat) : Keeps (Admits P) P (document fuel) := by
  have hend : ∀ found : Option Nat, Keeps (Admits P) P (do
      let _ ← accept .documentEnd
      if ← documentStart? fuel then fail else return found) := fun found =>
    (keeps_accept _).bind fun _ => (keeps_documentStart? hmalformed fuel).bind fun _ =>
      Keeps.ite (keeps_fail hmalformed) (Keeps.pure found)
  refine keeps_peek.bind fun next => Keeps.ite ?_ ?_
  · refine (keeps_documentStart? hmalformed fuel).bind fun _ => Keeps.ite ?_ ?_
    · exact (keeps_markedDocument hmalformed hdeep fuel).map.bind hend
    · exact (Keeps.pure none).bind hend
  · refine Keeps.bind (Keeps.modify fun _ hs => hs) fun _ => ?_
    exact ((keepsGrammar hmalformed hdeep fuel).node true false).map.bind hend

end Malformed
end Reader

/-- A text that has no graph is malformed, or nested too deeply, or broken at a token. -/
theorem Graph.failsIn_ofText {text : String} (hmalformed : P .malformed) (hdeep : P .tooDeep)
    (htokens : ∀ fault, .broken fault ∈ Token.ofText text → P fault) : (Graph.ofText text).FailsIn P := by
  rw [Graph.ofText]
  have hstart : Reader.Admits P ⟨Token.ofText text, #[], [], [], 0⟩ := htokens
  exact Except.FailsIn.bind (Reader.keeps_document hmalformed hdeep _ _ hstart).1 fun _ => Except.failsIn_pure _

end Yaml
end HostTopology
