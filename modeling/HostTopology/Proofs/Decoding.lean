import HostTopology.Proofs.Faults
import HostTopology.Proofs.Lexing

/-!
# Decoding — from the nodes of a YAML text to its value

A collection can be filled whatever is in it, or the text is malformed. So a graph whose scalars can be read
has a value, or is malformed:

* `Node.Loads` — a scalar that can be read, or a collection that is tagged as one;
* `Merge.Settled` — the graphs that merging makes from such nodes;
* `Graph.failsIn_value` — the value of such a graph;
* `Cause`, `failsIn_ofYaml` — everything that can make the reading of a text fail in another way.
-/

namespace HostTopology
namespace Yaml

variable {P : Fault → Prop}

/-! ## Nodes -/

theorem Scalar.reader?_text : reader? Node.textTag = some fun c => .ok (.ofPoints c) := rfl

namespace Node

/-- A scalar is read by its tag and fails only in ways with a property; a mapping is tagged as no scalar,
so that no entry of it stands for it. -/
def Loads (P : Fault → Prop) : Node → Prop
  | scalar t c => ∀ read, Scalar.reader? t = some read → (read c).FailsIn P
  | sequence _ _ => True
  | mapping t _ => Scalar.reader? t = none ∧ t ≠ defaultTag

def isMapping : Node → Bool
  | mapping .. => true
  | _ => false

theorem loads_text (c : Text.Points) : (scalar textTag c).Loads P := by
  intro read hread
  rw [Scalar.reader?_text] at hread
  cases hread
  exact Except.failsIn_ok _

end Node

theorem Graph.node_setIfInBounds (g : Graph) (id : Nat) (x : Node) (i : Nat) :
    Graph.node (g.setIfInBounds id x) i = if id = i ∧ i < g.size then x else g.node i := by
  simp only [Graph.node, Array.getD_eq_getD_getElem?, Array.getElem?_setIfInBounds]
  by_cases hid : id = i
  · by_cases hsize : i < g.size <;> simp [hid, hsize]
  · simp [hid]

/-! ## Merging -/

namespace Merge

/-- Every node loads, and the mappings are those of the graph at the start. -/
structure Settled (P : Fault → Prop) (mappings : Nat → Bool) (g : Graph) : Prop where
  loads : ∀ id, (g.node id).Loads P
  kind : ∀ id, (g.node id).isMapping = mappings id

variable {mappings : Nat → Bool} {g : Graph} {id : Nat} {β : Type}

theorem Settled.set {x : Node} (h : Settled P mappings g) (hx : x.Loads P) (hkind : x.isMapping = mappings id) :
    Settled P mappings (g.setIfInBounds id x) := by
  constructor
  · intro i
    rw [Graph.node_setIfInBounds]
    split
    · exact hx
    · exact h.loads i
  · intro i
    rw [Graph.node_setIfInBounds]
    split
    · rename_i hi
      rw [hkind, hi.1]
    · exact h.kind i

/-- A key that marks a default value becomes a text. -/
theorem keeps_settleKey (id : Nat) : Keeps (Settled P mappings) P (settleKey id) := by
  refine Keeps.get_bind fun s hs => ?_
  have hloads := hs.loads id
  have hkind := hs.kind id
  -- no mapping has the tag of a default value, so that none becomes a text
  by_cases htag : (s.node id).tag = Node.defaultTag
  · rw [if_pos htag]
    refine Keeps.modify fun g hg => hg.set ?_ ?_
    · cases hnode : s.node id with
      | scalar t c => exact Node.loads_text c
      | sequence t items => trivial
      | mapping t entries =>
        rw [hnode] at hloads htag
        exact absurd htag hloads.2
    · rw [← hkind]
      cases s.node id <;> rfl
  · rw [if_neg htag]
    exact Keeps.pure ()

theorem entriesOf_run (id : Nat) (s : Graph) : entriesOf id s = match s.node id with
    | .mapping _ entries => .ok (entries, s)
    | _ => .error .malformed := by
  have hrun : entriesOf id s = (match s.node id with
      | .mapping _ entries => (pure entries : Merging (List Entry))
      | _ => throw Fault.malformed) s := rfl
  rw [hrun]
  cases s.node id <;> rfl

theorem keeps_entriesOf (hmalformed : P .malformed) (id : Nat) : Keeps (Settled P mappings) P (entriesOf id) := by
  refine Keeps.get_bind fun s hs => ?_
  split
  · exact Keeps.pure _
  · exact Keeps.throw hmalformed

theorem keeps_setEntries (hid : mappings id = true) (entries : List Entry) :
    Keeps (Settled P mappings) P (setEntries id entries) := by
  refine Keeps.get_bind fun s hs => Keeps.modify fun g hg => hg.set ?_ hid.symm
  have hkind := hs.kind id
  have hloads := hs.loads id
  cases hnode : s.node id with
  | mapping t entries =>
    rw [hnode] at hloads
    exact hloads
  | _ =>
    rw [hnode, hid] at hkind
    cases hkind

theorem mappings_of_entriesOf {s s' : Graph} {entries : List Entry} (hs : Settled P mappings s)
    (h : entriesOf id s = .ok (entries, s')) : mappings id = true := by
  have hkind := hs.kind id
  rw [entriesOf_run] at h
  cases hnode : s.node id with
  | mapping t found =>
    rw [hnode] at hkind
    exact hkind.symm
  | _ => simp [hnode] at h

theorem keeps_joinFrom (hmalformed : P .malformed) (n id place : Nat) (joined : List Entry) :
    Keeps (Settled P mappings) P (joinFrom n id place joined) := by
  induction n generalizing id place joined with
  | zero => exact Keeps.throw hmalformed
  | succ n ih =>
    -- the entries of a mapping that is merged, after its own merge keys
    have hentries : ∀ x, Keeps (Settled P mappings) P (do
        let _ ← entriesOf x
        joinFrom n x 0 []
        entriesOf x) := fun x =>
      (keeps_entriesOf hmalformed x).bind fun _ => (ih x 0 []).bind fun _ => keeps_entriesOf hmalformed x
    refine Keeps.get_bind fun s _ => ?_
    -- only a mapping has entries, so that `id` is one when it is given others
    refine (keeps_entriesOf hmalformed id).bind_of (fun _ _ _ hs => mappings_of_entriesOf hs) fun entries hid => ?_
    refine (Keeps.forM (fun e => keeps_settleKey _) _).bind fun _ => ?_
    dsimp only
    split
    · exact Keeps.ite (keeps_setEntries hid _) (Keeps.pure ())
    · refine (keeps_setEntries hid _).bind fun _ => Keeps.get_bind fun s _ => ?_
      split
      · exact (Keeps.mapM hentries _).bind fun _ => ih id _ _
      · exact (hentries _).bind fun _ => ih id _ _

end Merge

/-- The graph after a merge loads as well. -/
theorem Graph.failsIn_merged {g : Graph} (hmalformed : P .malformed) (hg : ∀ id, (g.node id).Loads P) (id : Nat) :
    (g.merged id).FailsIn P ∧ ∀ g', g.merged id = .ok g' → ∀ id, (g'.node id).Loads P := by
  have hstart : Merge.Settled P (fun id => (g.node id).isMapping) g := ⟨hg, fun _ => rfl⟩
  rcases Merge.keeps_joinFrom hmalformed (g.entryCount + 1) id 0 [] g hstart with ⟨hfails, hleads⟩
  rw [Graph.merged]
  cases hjoin : Merge.joinFrom (g.entryCount + 1) id 0 [] g with
  | error fault => simpa [Except.map] using hfails fault hjoin
  | ok result =>
    refine ⟨Except.failsIn_ok _, ?_⟩
    rintro g' ⟨⟩
    exact (hleads _ _ hjoin).loads

/-! ## Values -/

namespace Meaning

/-- Every node of the graph loads. -/
def Solid (P : Fault → Prop) (s : Progress) : Prop :=
  ∀ id, (s.graph.node id).Loads P

theorem failsIn_scalar {g : Graph} {id : Nat} (hmalformed : P .malformed) (h : (g.node id).Loads P) :
    (scalar g id).FailsIn P := by
  rw [scalar]
  cases hread : Scalar.reader? (g.node id).tag with
  | none => simpa [hread] using hmalformed
  | some read =>
    cases hnode : g.node id with
    | scalar t c =>
      rw [hnode] at h hread
      have hc := h read hread
      simp [content, hnode, isScalar, Except.failsIn_bind_iff, hc]
    | sequence t items => simpa [content, hnode, Except.failsIn_bind_iff] using hmalformed
    | mapping t entries =>
      rw [hnode] at h hread
      exact absurd (h.1.symm.trans hread) (by simp)

theorem keeps_part? (id : Nat) : Keeps (Solid P) P (part? id) :=
  Keeps.get_bind fun _ _ => Keeps.pure _

theorem keeps_setPart (id : Nat) (p : Part) : Keeps (Solid P) P (setPart id p) :=
  Keeps.modify fun _ hs => hs

section Malformed

variable (hmalformed : P .malformed)

include hmalformed

theorem keeps_meet (id : Nat) : Keeps (Solid P) P (meet id) := by
  refine (keeps_part? id).bind fun p => ?_
  split
  · exact Keeps.pure ()
  · refine Keeps.get_bind fun s hs => Keeps.ite ?_ ?_
    · exact (keeps_setPart id _).bind fun _ => Keeps.modify fun _ hs => hs
    · refine (Keeps.lift (failsIn_scalar hmalformed (hs id))).bind fun _ => ?_
      exact keeps_setPart id _

theorem keeps_key (id : Nat) : Keeps (Solid P) P (key id) := by
  refine (keeps_meet hmalformed id).bind fun _ => (keeps_part? id).bind fun p => ?_
  split
  · exact Keeps.pure _
  · exact Keeps.throw hmalformed

theorem keeps_rows (id : Nat) : Keeps (Solid P) P (rows id) := by
  refine Keeps.get_bind fun s hs => ?_
  rcases Graph.failsIn_merged hmalformed hs id with ⟨hfails, hloads⟩
  refine Keeps.lift_bind hfails fun g hg => ?_
  refine Keeps.bind (Keeps.modify fun _ _ => hloads g hg) fun _ => ?_
  split
  · refine Keeps.foldlM (fun acc e => ?_) _ _
    exact (keeps_key hmalformed e.1).bind fun _ => (keeps_meet hmalformed e.2).bind fun _ => Keeps.pure _
  · exact Keeps.throw hmalformed

theorem keeps_pair (id : Nat) : Keeps (Solid P) P (pair id) := by
  refine Keeps.get_bind fun s _ => ?_
  split
  · exact (keeps_meet hmalformed _).bind fun _ => (keeps_meet hmalformed _).bind fun _ => Keeps.pure _
  · exact Keeps.throw hmalformed

theorem keeps_fill (id : Nat) : Keeps (Solid P) P (fill id) := by
  refine Keeps.get_bind fun s _ => ?_
  split
  · refine Keeps.ite ?_ (Keeps.ite ?_ (Keeps.throw hmalformed))
    · exact (Keeps.forM (keeps_meet hmalformed) _).bind fun _ => keeps_setPart id _
    · exact (Keeps.mapM (keeps_pair hmalformed) _).bind fun _ => keeps_setPart id _
  · refine Keeps.ite ?_ (Keeps.ite ?_ (Keeps.throw hmalformed))
    · exact (keeps_rows hmalformed id).bind fun _ => keeps_setPart id _
    · exact (keeps_rows hmalformed id).bind fun _ => keeps_setPart id _
  · exact Keeps.throw hmalformed

theorem keeps_fillLevels (n : Nat) (ids : List Nat) : Keeps (Solid P) P (fillLevels n ids) := by
  induction n generalizing ids with
  | zero => exact Keeps.throw hmalformed
  | succ n ih =>
    refine (Keeps.forM (keeps_fill hmalformed) _).bind fun _ => Keeps.get_bind fun s _ => ?_
    refine Keeps.ite (Keeps.pure ()) ?_
    exact Keeps.bind (Keeps.modify fun _ hs => hs) fun _ => ih _

end Malformed
end Meaning

theorem Graph.failsIn_value {g : Graph} (hmalformed : P .malformed) (hg : ∀ id, (g.node id).Loads P) (root : Nat) :
    (g.value root).FailsIn P := by
  have hparts : (Meaning.parts g root).FailsIn P := by
    have hkeeps := (Meaning.keeps_meet hmalformed root).bind fun _ =>
      Meaning.keeps_fillLevels hmalformed (g.size + 1) []
    rw [Meaning.parts]
    have hrun := (hkeeps ⟨g, Array.replicate g.size none, []⟩ hg).1
    exact Except.failsIn_map_iff.2 hrun
  exact hparts.bind fun _ => Except.failsIn_pure _

/-! ## Causes -/

/-- What can make the reading of a text fail in another way than as a malformed text. -/
inductive Cause (text : String) : Fault → Prop
  /-- The text breaks off at a version number with too many digits. -/
  | version (h : .broken .number ∈ Token.ofText text) : Cause text .number
  /-- The text breaks off at an escape beyond the last code point. -/
  | escape {code : Nat} (h : .broken (.codePoint code) ∈ Token.ofText text) (hcode : 0x110000 ≤ code) :
      Cause text (.codePoint code)
  /-- Collections are nested too deeply. -/
  | depth (h : Graph.ofText text = .error .tooDeep) : Cause text .tooDeep
  /-- A scalar is tagged as a type that its text spells no value of. -/
  | scalar {g : Graph} {root id : Nat} {t : String} {c : Text.Points} {read : Text.Points → Except Fault Value}
      {fault : Fault} (hgraph : Graph.ofText text = .ok (some (g, root))) (hnode : g.node id = .scalar t c)
      (hread : Scalar.reader? t = some read) (hfault : read c = .error fault) : Cause text fault
  /-- A mapping is tagged as a scalar or as a default value, so that one of its entries may stand for it. -/
  | mapping {g : Graph} {root id : Nat} {t : String} {entries : List (Nat × Nat)} {fault : Fault}
      (hgraph : Graph.ofText text = .ok (some (g, root))) (hnode : g.node id = .mapping t entries)
      (htag : (Scalar.reader? t).isSome ∨ t = Node.defaultTag) : Cause text fault

theorem cause_of_broken {text : String} {fault : Fault} (h : .broken fault ∈ Token.ofText text) :
    fault = .malformed ∨ Cause text fault := by
  have hlexical := Token.isLexical_of_broken h
  cases fault with
  | malformed => exact .inl rfl
  | number => exact .inr (.version h)
  | codePoint code => exact .inr (.escape h hlexical)
  | _ => cases hlexical

theorem failsIn_graph (text : String) :
    (Graph.ofText text).FailsIn fun fault => fault = .malformed ∨ Cause text fault := by
  intro fault hfault
  have horigin : (Graph.ofText text).FailsIn fun fault =>
      fault = .malformed ∨ fault = .tooDeep ∨ .broken fault ∈ Token.ofText text :=
    Graph.failsIn_ofText (.inl rfl) (.inr (.inl rfl)) fun _ hbroken => .inr (.inr hbroken)
  rcases horigin fault hfault with rfl | rfl | hbroken
  · exact .inl rfl
  · exact .inr (.depth hfault)
  · exact cause_of_broken hbroken

/-- Every fault of a text that is not a malformed one has a cause. -/
theorem failsIn_ofYaml (text : String) :
    (Value.ofYaml text).FailsIn fun fault => fault = .malformed ∨ Cause text fault := by
  refine Except.failsIn_bind_iff.2 ⟨failsIn_graph text, ?_⟩
  intro found hgraph
  cases found with
  | none => exact Except.failsIn_ok _
  | some start =>
    rcases start with ⟨g, root⟩
    -- a mapping with the tag of a scalar, or with that of the default value, is a cause
    by_cases hmapping : ∃ id t entries, g.node id = .mapping t entries ∧
        ((Scalar.reader? t).isSome ∨ t = Node.defaultTag)
    · rcases hmapping with ⟨id, t, entries, hnode, htag⟩
      exact fun fault _ => .inr (.mapping hgraph hnode htag)
    · -- every node loads, with the scalars as the causes
      refine Graph.failsIn_value (.inl rfl) (fun id => ?_) root
      cases hnode : g.node id with
      | scalar t c => exact fun read hread fault hfault => .inr (.scalar hgraph hnode hread hfault)
      | sequence t items => trivial
      | mapping t entries =>
        refine ⟨?_, fun htag => hmapping ⟨id, t, entries, hnode, .inr htag⟩⟩
        rw [← Option.not_isSome_iff_eq_none]
        exact fun hsome => hmapping ⟨id, t, entries, hnode, .inl hsome⟩

end Yaml
end HostTopology
