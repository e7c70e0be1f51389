import HostTopology.Proofs.Code
import HostTopology.Proofs.Faultless
import HostTopology.Proofs.Insertion

/-!
# Reading — what each statement of an AppHost does to what has been read

A statement changes the configuration of the instance that its variable stands for, and adds links
from the variables that it refers to, and that is all: it can be read if that configuration can take it
(`Reading.exists_apply`), and does nothing else (`Reading.apply_cases`). For plain statements this file
gives both:

* `Statement.configured` — the configuration after a statement;
* `Reading.IsAt` — the instances, links and variables that have been read, whatever the warnings;
* `Reading.IsAt.apply_piece` — the step for one statement.
-/

namespace List

variable {α β : Type}

theorem lookup_of_mem [BEq α] [LawfulBEq α] {l : List (α × β)} {k : α} {v : β}
    (hnodup : (l.map Prod.fst).Nodup) (h : (k, v) ∈ l) : l.lookup k = some v := by
  induction l with
  | nil => exact absurd h not_mem_nil
  | cons e l ih =>
    rcases e with ⟨k', v'⟩
    rw [map_cons, nodup_cons] at hnodup
    rcases mem_cons.1 h with heq | htail
    · rcases Prod.mk.inj heq with ⟨rfl, rfl⟩
      rw [lookup_cons, beq_self_eq_true]
    · have hmem : k ∈ l.map Prod.fst := mem_map_of_mem htail
      have hne : k ≠ k' := fun heq => hnodup.1 (heq ▸ hmem)
      rw [lookup_cons, beq_eq_false_iff_ne.2 hne]
      exact ih hnodup.2 htail

/-- Changing a member into itself changes nothing. -/
theorem modify_of_getElem?_eq_some {l : List α} {n : Nat} {f : α → α} {a : α} (h : l[n]? = some a) (hf : f a = a) :
    l.modify n f = l := by
  apply ext_getElem?
  intro m
  rw [getElem?_modify]
  split_ifs with hnm
  · subst hnm
    rw [h]
    exact congrArg some hf
  · exact Option.map_id_apply

end List

namespace HostTopology
namespace AppHost

open Text Scan

variable {gap indent : List Char} {o : RenderOptions} {packages : List String} {s : Statement} {g : Segment}
  {gs : List Segment}

/-! ## What a statement says -/

namespace Statement

def envVars (s : Statement) : List EnvVar :=
  (s.chain.filterMap ChainCall.environment?).map fun (k, v) => EnvVar.mk k v

def volumes (s : Statement) : List VolumeMount :=
  (s.chain.filterMap ChainCall.bindMount?).map fun (s, t) => VolumeMount.mk s t

def replicas? (s : Statement) : Option Int :=
  (s.chain.filterMap ChainCall.number?).head?

def isPersistent (s : Statement) : Bool :=
  s.chain.any ChainCall.isLifetime

/-- The variables that a statement refers to. -/
def references (s : Statement) : List String :=
  s.chain.filterMap ChainCall.reference?

/-- A configuration after the calls of a statement. -/
def configured (s : Statement) (c : ResourceConfig) : ResourceConfig :=
  Reading.setLifetime s.isPersistent (Reading.setReplicas s.replicas? (Reading.extend s.envVars s.volumes c))

end Statement

theorem replicaDigits?_eq (c : ChainCall) :
    c.replicaDigits? = c.number?.map fun n => Nat.toDigits 10 n.natAbs := by
  cases c <;> rfl

theorem first?_replicasCall (hg : g.IsPlain) (hindent : IsIndent indent) :
    first? replicasCall (g.piece indent) =
      g.statement.replicas?.map fun n => Nat.toDigits 10 n.natAbs := by
  have hread := reads_replicas.first?_stem (by decide) hg.gap hindent hg.statement.toIsFramed fun c hc =>
    reads_replicas.legible (hg.statement.chain c hc)
  have hdigits : ChainCall.replicaDigits? = fun c => c.number?.map fun n => Nat.toDigits 10 n.natAbs :=
    funext replicaDigits?_eq
  rw [Segment.piece, hread, Statement.replicas?, hdigits, ← List.map_filterMap, List.head?_map]

/-- The number of replicas of a plain statement can be read. -/
theorem bounds_of_replicas? (hs : s.IsPlain) {n : Int} (h : s.replicas? = some n) :
    1 < n ∧ n.natAbs < numeralBound := by
  rcases List.mem_filterMap.1 (List.mem_of_mem_head? h) with ⟨c, hc, hn⟩
  have hplain := hs.chain c hc
  cases c with
  | replicas count =>
    obtain rfl := Option.some.inj hn
    exact hplain
  | _ => cases hn

theorem configure_piece (hg : g.IsPlain) (hindent : IsIndent indent) (c : ResourceConfig) :
    Reading.configure (g.piece indent) c = .ok (g.statement.configured c) := by
  have hframed := hg.statement.toIsFramed
  have henv := reads_environment.all_stem (by decide) hg.gap hindent hframed fun c hc =>
    reads_environment.legible (hg.statement.chain c hc)
  have hmounts := reads_bindMount.all_stem (by decide) hg.gap hindent hframed fun c hc =>
    reads_bindMount.legible (hg.statement.chain c hc)
  have hmark := contains_mark_stem hg.gap hindent hg.statement
  have hreplicas := first?_replicasCall hg hindent
  rw [Segment.piece] at hreplicas ⊢
  rw [Reading.configure, henv, hmounts, hmark, hreplicas, Statement.configured]
  cases hn : g.statement.replicas? with
  | none => rfl
  | some n =>
    -- a count that is printed can be read again
    rcases bounds_of_replicas? hg.statement hn with ⟨hpos, hbound⟩
    rcases Int.eq_ofNat_of_zero_le (by omega : 0 ≤ n) with ⟨m, rfl⟩
    rw [Int.natAbs_natCast] at hbound
    rw [Option.map_some, Int.natAbs_natCast]
    simp only [readNumeral_toDigits hbound]
    rfl

/-! ## Readings -/

/-- What has been read, whatever the warnings. -/
structure Reading.IsAt (s : Reading) (drafts : List Draft) (links : List (Nat × Nat))
    (positions : List (String × Nat)) : Prop where
  drafts_eq : s.sketch.drafts = drafts
  links_eq : s.sketch.links = links
  positions_eq : s.positions = positions

namespace Reading

variable {r : Reading} {before after : List Draft} {draft : Draft} {links : List (Nat × Nat)}
  {positions : List (String × Nat)} {sources : List Nat}

section Step

variable {r' : Reading} {statement : List Char} {position : Nat} {config : ResourceConfig}

/-- A statement about an instance adds its references to the links, and configures the instance. -/
theorem apply_of_position
    (hposition : ((owner statement).bind fun (name, _) => r.positions.lookup name) = some position)
    (hdraft : r.sketch.drafts[position]? = some draft) (hconfig : configure statement draft.config = .ok config) :
    r.apply statement = .ok { r.addReferences position statement with
      sketch := (r.addReferences position statement).sketch.modify position fun d => { d with config := config } } := by
  rw [apply, hposition]
  simp only [hdraft, hconfig]
  rfl

/-- Statements that any configuration can take are read, whatever they are about. -/
theorem exists_apply (h : ∀ config, ∃ config', configure statement config = .ok config') :
    ∃ r', r.apply statement = .ok r' := by
  cases hposition : (owner statement).bind fun (name, _) => r.positions.lookup name with
  | none => exact ⟨r, by rw [apply, hposition]⟩
  | some position =>
    cases hdraft : r.sketch.drafts[position]? with
    | none => exact ⟨r, by rw [apply, hposition]; simp only [hdraft]⟩
    | some draft =>
      obtain ⟨config, hconfig⟩ := h draft.config
      exact ⟨_, apply_of_position hposition hdraft hconfig⟩

/-- That is all that statements do. -/
theorem apply_cases (h : r.apply statement = .ok r') : r' = r ∨ ∃ position draft config,
    ((owner statement).bind fun (name, _) => r.positions.lookup name) = some position ∧
    r.sketch.drafts[position]? = some draft ∧ configure statement draft.config = .ok config ∧
    r' = { r.addReferences position statement with
      sketch := (r.addReferences position statement).sketch.modify position fun d => { d with config := config } } := by
  rw [apply] at h
  cases hposition : (owner statement).bind fun (name, _) => r.positions.lookup name with
  | none =>
    rw [hposition] at h
    exact .inl (Except.ok.inj h).symm
  | some position =>
    rw [hposition] at h
    cases hdraft : r.sketch.drafts[position]? with
    | none =>
      simp only [hdraft] at h
      exact .inl (Except.ok.inj h).symm
    | some draft =>
      simp only [hdraft] at h
      obtain ⟨config, hconfig, hr⟩ := Except.bind_eq_ok_iff.1 h
      exact .inr ⟨position, draft, config, rfl, hdraft, hconfig, (Except.ok.inj hr).symm⟩

end Step

/-- Links to one target are added if they are new. -/
theorem foldl_addLink {sketch : Sketch} {target : Nat} (hnodup : sources.Nodup) (hself : target ∉ sources)
    (hnew : ∀ source ∈ sources, (source, target) ∉ sketch.links) :
    sources.foldl (fun sketch source => sketch.addLink source target) sketch =
      { sketch with links := sketch.links ++ sources.map fun source => (source, target) } := by
  -- each link is new when it is added: it is not there, and its source has not come yet
  induction sources generalizing sketch with
  | nil => rw [List.map_nil, List.append_nil, List.foldl_nil]
  | cons source sources ih =>
    rw [List.nodup_cons] at hnodup
    rw [List.mem_cons, not_or] at hself
    have hadd : sketch.addLink source target = { sketch with links := sketch.links ++ [(source, target)] } := by
      rw [Sketch.addLink, if_neg]
      rintro (heq | hmem)
      · exact hself.1 heq.symm
      · exact hnew source List.mem_cons_self hmem
    have hrest : ∀ other ∈ sources, (other, target) ∉ sketch.links ++ [(source, target)] := by
      intro other hother hmem
      rcases List.mem_append.1 hmem with hmem | hmem
      · exact hnew other (List.mem_cons_of_mem source hother) hmem
      · rcases Prod.mk.inj (List.mem_singleton.1 hmem) with ⟨rfl, -⟩
        exact hnodup.1 hother
    rw [List.foldl_cons, hadd, ih hnodup.2 hself.2 hrest, List.map_cons, List.append_assoc]
    rfl

/-- A piece is about the instance that its owner stands for. -/
theorem bind_lookup_of_owner {piece rest : List Char} {name : String} {position : Nat}
    (h : owner piece = some (name, rest)) (hname : r.positions.lookup name = some position) :
    ((owner piece).bind fun (name, _) => r.positions.lookup name) = some position := by
  rw [h]
  exact hname

/-- A statement is read into the instance that its variable stands for. -/
theorem IsAt.apply_piece (h : r.IsAt (before ++ draft :: after) links positions) (hg : g.IsPlain)
    (hindent : IsIndent indent) (howner : positions.lookup g.statement.name = some before.length)
    (hsources : g.statement.references.filterMap (fun name => positions.lookup name) = sources)
    (hnodup : sources.Nodup) (hself : before.length ∉ sources)
    (hnew : ∀ source ∈ sources, (source, before.length) ∉ links) :
    ∃ r', Reading.apply r (g.piece indent) = .ok r' ∧
      r'.IsAt (before ++ { draft with config := g.statement.configured draft.config } :: after)
        (links ++ sources.map fun source => (source, before.length)) positions := by
  rcases h with ⟨hdrafts, hlinks, hpositions⟩
  have howned : ∃ rest, owner (g.piece indent) = some (g.statement.name, rest) :=
    owner_stem hg.gap hg.statement.toIsFramed
  rcases howned with ⟨rest, hown⟩
  have hdraft : r.sketch.drafts[before.length]? = some draft := by
    rw [hdrafts, List.getElem?_append_right le_rfl, Nat.sub_self]
    rfl
  have hposition := bind_lookup_of_owner hown (hpositions ▸ howner)
  have hreferences : (all referenceCall (g.piece indent)).filterMap (fun name => r.positions.lookup name) =
      sources := by
    have hread := reads_reference.all_stem (by decide) hg.gap hindent hg.statement.toIsFramed fun c hc =>
      reads_reference.legible (hg.statement.chain c hc)
    rw [Segment.piece, hread, hpositions, ← hsources, Statement.references]
  -- the references are looked up in the table, whatever was read before
  have hnew' : ∀ source ∈ sources, (source, before.length) ∉ r.sketch.links := by rwa [hlinks]
  have hfold := foldl_addLink hnodup hself hnew'
  refine ⟨{ sketch := ({ r.sketch with links := r.sketch.links ++ sources.map fun source =>
    (source, before.length) } : Sketch).modify before.length fun d =>
      { d with config := g.statement.configured draft.config }, positions := r.positions }, ?_, ?_⟩
  · rw [apply_of_position hposition hdraft (configure_piece hg hindent draft.config), Reading.addReferences, hreferences,
      hfold]
  · refine ⟨?_, ?_, hpositions⟩
    · change r.sketch.drafts.modify before.length _ = _
      rw [hdrafts, List.modify_append_cons]
    · change r.sketch.links ++ _ = _
      rw [hlinks]

/-! ## Pieces that are no declarations -/

theorem apply_of_owner_eq_none {piece : List Char} (h : owner piece = none) :
    Reading.apply r piece = .ok r := by
  rw [Reading.apply, h]
  rfl

/-- A piece without calls that are read changes nothing. -/
theorem apply_of_nothing {piece : List Char} (henv : all (pairCall ".WithEnvironment") piece = [])
    (hmounts : all (pairCall ".WithBindMount") piece = []) (hreplicas : first? replicasCall piece = none)
    (hreferences : all referenceCall piece = []) (hmark : contains persistentMark.toList piece = false) :
    Reading.apply r piece = .ok r := by
  rw [Reading.apply]
  generalize Option.bind (owner piece) _ = position?
  cases position? with
  | none => rfl
  | some position =>
    cases hdraft : r.sketch.drafts[position]? with
    | none => simp only [hdraft]
    | some draft =>
      -- the configuration is put back as it is
      have hextend : Reading.setLifetime false (Reading.setReplicas none (Reading.extend [] [] draft.config)) =
          draft.config := by
        simp [Reading.setLifetime, Reading.setReplicas, Reading.extend]
      have hconfig : Reading.configure piece draft.config = .ok draft.config := by
        simp only [Reading.configure, henv, hmounts, hreplicas, hmark]
        exact congrArg Except.ok hextend
      have hsame : r.sketch.drafts.modify position (fun d => { d with config := draft.config }) =
          r.sketch.drafts := List.modify_of_getElem?_eq_some hdraft rfl
      simp only [hdraft, hconfig, Reading.addReferences, hreferences, List.filterMap_nil, List.foldl_nil,
        Sketch.modify]
      change Except.ok (Reading.mk (Sketch.mk (r.sketch.drafts.modify position fun d =>
        { d with config := draft.config }) r.sketch.links r.sketch.warnings) r.positions) = _
      rw [hsame]

theorem apply_runPiece (hgap : IsGap gap) : Reading.apply r (gap ++ runPiece) = .ok r := by
  have hdot : '.' ∉ gap := hgap.not_mem (by decide)
  have hmark : contains persistentMark.toList (gap ++ runPiece) = false := by
    induction gap with
    | nil => decide
    | cons c gap ih =>
      have hc : c ∉ persistentMark.toList := by
        rw [hgap c List.mem_cons_self]
        decide
      have hrest : IsGap gap := fun c' hc' => hgap c' (List.mem_cons_of_mem c hc')
      rw [List.cons_append, contains_mark_cons hc]
      exact ih hrest (hrest.not_mem (by decide))
  -- the line has dots, but no method that is read
  refine apply_of_nothing ?_ ?_ ?_ ?_ hmark
  · rw [all_of_skips (reads_environment.calls.skips_of_not_mem hdot _)]
    decide
  · rw [all_of_skips (reads_bindMount.calls.skips_of_not_mem hdot _)]
    decide
  · rw [first?_of_skips (reads_replicas.calls.skips_of_not_mem hdot _)]
    decide
  · rw [all_of_skips (reads_reference.calls.skips_of_not_mem hdot _)]
    decide

end Reading
end AppHost
end HostTopology
