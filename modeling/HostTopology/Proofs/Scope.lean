import HostTopology.Proofs.Agreement
import HostTopology.Proofs.Layout

/-!
# Scope — the variables of an AppHost are declared once, and before they are used

Names and connections are checked by separate rules, order comes from sequencing, and the texts of a
declaration and of a reference to it are made in separate places. This file joins them:

* `names_declarations` — the variables that an AppHost declares are those that validation compares;
* `links_of_declare?` — a declaration refers to the sources of its connections, one after the other;
* `exists_render_eq_links` — they are the last lines of its text; `holds_reference` finds one for every connection;
* `appHost_wellScoped` — every reference is to a variable that stands earlier in the text.
-/

namespace List

/-- Where each member holds a text once or not at all, the members that hold it are counted. -/
theorem count_flatMap_filter {α β : Type} [BEq β] [LawfulBEq β] {f : α → List β} {b : β}
    {p q : α → Prop} [DecidablePred p] [DecidablePred q] {l : List α}
    (h : ∀ x ∈ l, (f x).count b = if p x then 1 else 0) :
    ((l.filter fun x => q x).flatMap f).count b = l.countP fun x => p x ∧ q x := by
  induction l with
  | nil => rfl
  | cons x l ih =>
    have hrest := ih fun y hy => h y (List.mem_cons_of_mem x hy)
    have hx := h x List.mem_cons_self
    by_cases hq : q x
    · rw [List.filter_cons_of_pos (by simpa using hq), List.flatMap_cons, List.count_append, hx, hrest,
        List.countP_cons]
      by_cases hp : p x
      · simp [hp, hq, Nat.add_comm]
      · simp [hp]
    · rw [List.filter_cons_of_neg (by simpa using hq), hrest, List.countP_cons]
      simp [hq]

end List

namespace HostTopology
namespace AppHost

open Validation Catalog Naming

variable {r : Registry} {t : Topology} {i : ResourceInstance} {d : Declaration} {c : Connection}
  {type : ResourceType}

/-! ## Calls that use a variable -/

def ChainCall.isLink : ChainCall → Bool
  | .reference _ => true
  | .waitFor _ => true
  | _ => false

/-- The calls of a declaration that use another variable. -/
def Declaration.links (d : Declaration) : List ChainCall :=
  (d.statements.flatMap Statement.chain).filter ChainCall.isLink

/-- What one connection puts on the declaration of its target. -/
def linkCalls (r : Registry) (t : Topology) (c : Connection) : List ChainCall :=
  match t.find? c.source with
  | some source =>
    .reference (referenceVariable r source) ::
      if r.categoryOf? source = some .database then [.waitFor (referenceVariable r source)] else []
  | none => []

/-- A configuration consists of a lifetime, the calls of its kind of resource, and one call for each
entry that says enough. -/
theorem forall_mem_configChain {category : ResourceCategory} {P : ChainCall → Prop}
    (hlifetime : category = .database ∧ i.config.persistent ≠ some false → P .persistentLifetime)
    (hdefault : ∀ call ∈ defaultChain (shapeOf i.resourceType), P call)
    (henv : ∀ v ∈ i.config.envVars, P (.environment v.key v.value))
    (hports : ∀ p ∈ i.config.ports, present p.container → P (.endpoint (p.host.filter present) p.container))
    (hvolumes : ∀ v ∈ i.config.volumes, P (.bindMount v.source v.target))
    (hreplicas : ∀ n, i.config.replicas = some n → 1 < n → P (.replicas n)) :
    ∀ call ∈ configChain i category, P call := by
  intro call hcall
  simp only [configChain, List.mem_append, List.mem_filterMap, Option.mem_toList] at hcall
  -- the calls in the order in which they are chained
  rcases hcall with ((((hcall | hcall) | ⟨v, hv, hcall⟩) | ⟨p, hp, hcall⟩) | ⟨v, hv, hcall⟩) | hcall
  · split at hcall
    · rename_i hkept
      rw [List.mem_singleton.1 hcall]
      exact hlifetime hkept
    · exact absurd hcall List.not_mem_nil
  · exact hdefault call hcall
  · rcases Option.ite_none_right_eq_some.1 hcall with ⟨-, hsome⟩
    rw [← Option.some.inj hsome]
    exact henv v hv
  · rcases Option.ite_none_right_eq_some.1 hcall with ⟨hpresent, hsome⟩
    rw [← Option.some.inj hsome]
    exact hports p hp hpresent
  · rcases Option.ite_none_right_eq_some.1 hcall with ⟨-, hsome⟩
    rw [← Option.some.inj hsome]
    exact hvolumes v hv
  · rcases Option.bind_eq_some_iff.1 hcall with ⟨n, hn, hsome⟩
    rcases Option.ite_none_right_eq_some.1 hsome with ⟨hpos, hsome⟩
    rw [← Option.some.inj hsome]
    exact hreplicas n hn hpos

theorem eq_of_mem_defaultChain {shape : Shape} {call : ChainCall} (h : call ∈ defaultChain shape) :
    call = .portFromEnv ∨ call = .endpoint none "8080" := by
  cases shape with
  | viteApp => exact Or.inl (List.mem_singleton.1 h)
  | container => exact Or.inr (List.mem_singleton.1 h)
  | _ => exact absurd h List.not_mem_nil

theorem isLink_defaultChain {shape : Shape} {call : ChainCall} (h : call ∈ defaultChain shape) :
    call.isLink = false := by
  rcases eq_of_mem_defaultChain h with rfl | rfl
  · rfl
  · rfl

/-- The configuration of an instance uses no variable. -/
theorem filter_isLink_configChain {category : ResourceCategory} :
    (configChain i category).filter ChainCall.isLink = [] := by
  have hnone : ∀ call ∈ configChain i category, call.isLink = false :=
    forall_mem_configChain (fun _ => rfl) (fun call hcall => isLink_defaultChain hcall) (fun _ _ => rfl)
      (fun _ _ _ => rfl) (fun _ _ => rfl) fun _ _ _ => rfl
  rw [List.filter_eq_nil_iff]
  intro call hcall
  rw [hnone call hcall]
  exact Bool.false_ne_true

/-! ## Declarations of instances -/

/-- A chain of references has the variables of instances, each with a call to wait for it where it is of a database. -/
theorem forall_mem_referenceChain {id : String} {P : ChainCall → Prop}
    (hreference : ∀ source, P (.reference (referenceVariable r source)))
    (hwait : ∀ source, P (.waitFor (referenceVariable r source))) : ∀ call ∈ referenceChain r t id, P call := by
  intro call hcall
  rcases List.mem_flatMap.1 hcall with ⟨c, -, hcall⟩
  split at hcall
  · rename_i source _
    split at hcall
    · rcases List.mem_cons.1 hcall with rfl | hcall
      · exact hreference source
      · split at hcall
        · rw [List.mem_singleton.1 hcall]
          exact hwait source
        · exact absurd hcall List.not_mem_nil
    · exact absurd hcall List.not_mem_nil
  · exact absurd hcall List.not_mem_nil

theorem isLink_referenceChain {id : String} : ∀ call ∈ referenceChain r t id, call.isLink = true :=
  forall_mem_referenceChain (fun _ => rfl) fun _ => rfl

theorem filter_isLink_referenceChain {id : String} :
    (referenceChain r t id).filter ChainCall.isLink = referenceChain r t id :=
  List.filter_eq_self.2 isLink_referenceChain

/-- A declaration is of a known type. With a database it has two statements, and the references stand in the second. -/
theorem declare?_cases (h : declare? r t i = some d) : ∃ type, r.find? i.resourceType = some type ∧
    ((∃ database, r.databaseOf? i = some database ∧ d = ⟨type.displayName,
        [⟨variableName i.name, openingCall i type.builder.name (variableName i.name), configChain i type.category⟩,
          ⟨variableName database, .database (variableName i.name) database, referenceChain r t i.id⟩]⟩) ∨
      (r.databaseOf? i = none ∧ d = ⟨type.displayName,
        [⟨variableName i.name, openingCall i type.builder.name (variableName i.name),
          configChain i type.category ++ referenceChain r t i.id⟩]⟩)) := by
  rw [declare?] at h
  split at h
  · cases h
  · rcases Option.map_eq_some_iff.1 h with ⟨type, htype, rfl⟩
    refine ⟨type, htype, ?_⟩
    cases r.databaseOf? i with
    | none => exact Or.inr ⟨rfl, rfl⟩
    | some database => exact Or.inl ⟨database, rfl, rfl⟩

/-- A declaration refers to what connections lead from, and to nothing else. -/
theorem links_of_declare? (h : declare? r t i = some d) : d.links = referenceChain r t i.id := by
  obtain ⟨type, -, ⟨database, -, rfl⟩ | ⟨-, rfl⟩⟩ := declare?_cases h
  · simp [Declaration.links, filter_isLink_configChain, filter_isLink_referenceChain]
  · simp [Declaration.links, filter_isLink_configChain, filter_isLink_referenceChain]

theorem isSome_find?_of_declare? (h : declare? r t i = some d) : (r.find? i.resourceType).isSome := by
  obtain ⟨type, htype, -⟩ := declare?_cases h
  rw [htype, Option.isSome_some]

/-- The variables of a declaration are those that validation compares. -/
theorem names_of_declare? (hblank : isBlankText i.name = false) :
    ((declare? r t i).toList.flatMap Declaration.statements).map Statement.name =
      (declaredFor r i).map Declared.name := by
  have hpresent : present i.name = true := by
    simpa [present] using ne_empty_of_isBlankText hblank
  rw [declare?, declaredFor, hblank, hpresent]
  cases r.find? i.resourceType with
  | none => rfl
  | some type =>
    cases r.databaseOf? i with
    | none => rfl
    | some database => rfl

/-- Others refer to an instance by the variable of its last statement. -/
theorem exists_getLast?_of_declare? (h : declare? r t i = some d) :
    ∃ s, d.statements.getLast? = some s ∧ s.name = referenceVariable r i := by
  rw [referenceVariable]
  obtain ⟨type, -, ⟨database, hdatabase, rfl⟩ | ⟨hnone, rfl⟩⟩ := declare?_cases h
  · rw [hdatabase]
    exact ⟨_, rfl, rfl⟩
  · rw [hnone]
    exact ⟨_, rfl, rfl⟩

/-- References are chained last. -/
theorem exists_links_suffix_of_declare? (h : declare? r t i = some d) :
    ∃ s, d.statements.getLast? = some s ∧ d.links <:+ s.chain := by
  rw [links_of_declare? h]
  obtain ⟨type, -, ⟨database, hdatabase, rfl⟩ | ⟨hnone, rfl⟩⟩ := declare?_cases h
  · exact ⟨_, rfl, List.suffix_refl _⟩
  · exact ⟨_, rfl, List.suffix_append _ _⟩

/-- The text of a declaration ends with its references, one line for each of them. -/
theorem exists_render_eq_links (o : RenderOptions) (h : declare? r t i = some d) :
    ∃ before, d.render o = before ++ String.join (d.links.map fun c => "\n" ++ o.indent ++ c.render) ++ ";" := by
  obtain ⟨s, hlast, init, hchain⟩ := exists_links_suffix_of_declare? h
  obtain ⟨start, hstart⟩ := exists_render_eq_of_getLast? (o := o) hlast
  rw [hstart, Statement.render, ← hchain, List.map_append, String.join_append]
  refine ⟨start ++ ("var " ++ s.name ++ " = " ++ s.opening.render
    ++ String.join (init.map fun c => "\n" ++ o.indent ++ c.render)), ?_⟩
  simp only [String.append_assoc]

end AppHost

open AppHost Validation Catalog Naming

variable {r : Registry} {t : Topology} {i j : ResourceInstance} {d : Declaration} {c : Connection}
  {o : RenderOptions}

theorem exists_types_of_isConnectionValid {source target : String}
    (h : r.isConnectionValid source target = true) :
    (r.find? source).isSome ∧ (r.find? target).isSome := by
  rw [Registry.isConnectionValid] at h
  cases hs : r.find? source with
  | none => simp [hs] at h
  | some s =>
    cases ht : r.find? target with
    | none => simp [hs, ht] at h
    | some u => exact ⟨rfl, rfl⟩

namespace Faultless

/-- The variables that are declared for instances in any order. -/
theorem names_declarations (h : Faultless r t) {ordered : List ResourceInstance}
    (hsub : ∀ i ∈ ordered, i ∈ t.instances) :
    ((ordered.filterMap (declare? r t)).flatMap Declaration.statements).map Statement.name =
      (ordered.flatMap (declaredFor r)).map Declared.name := by
  induction ordered with
  | nil => rfl
  | cons i ordered ih =>
    have hi := names_of_declare? (r := r) (t := t) (h.not_blank (hsub i List.mem_cons_self))
    have hrest := ih fun j hj => hsub j (List.mem_cons_of_mem i hj)
    rw [List.flatMap_cons, List.map_append, ← hi, ← hrest, List.filterMap_cons]
    cases declare? r t i with
    | none => rfl
    | some d => simp

theorem nodup_declarations (h : Faultless r t) (hd : t.DistinctIds) :
    (((t.sequence.ordered.filterMap (declare? r t)).flatMap Declaration.statements).map
      Statement.name).Nodup := by
  have hperm := h.ordered_perm hd
  rw [h.names_declarations fun i hi => hperm.mem_iff.1 hi]
  exact ((hperm.flatMap_right (declaredFor r)).map Declared.name).nodup_iff.2 h.nodup_variables

theorem referenceVariable_mem (h : Faultless r t) (hi : i ∈ t.instances)
    (hknown : (r.find? i.resourceType).isSome) :
    referenceVariable r i ∈ (declaredFor r i).map Declared.name := by
  rcases Option.isSome_iff_exists.1 hknown with ⟨type, htype⟩
  rw [declaredFor, h.not_blank hi, htype, referenceVariable]
  cases r.databaseOf? i <;> simp

/-- Different instances are referred to by different variables. -/
theorem referenceVariable_inj (h : Faultless r t) (hi : i ∈ t.instances) (hj : j ∈ t.instances)
    (hiknown : (r.find? i.resourceType).isSome) (hjknown : (r.find? j.resourceType).isSome)
    (heq : referenceVariable r i = referenceVariable r j) : i = j := by
  by_contra hne
  have hnodup := h.nodup_variables
  rw [List.map_flatMap, List.nodup_flatMap] at hnodup
  have hsymm : Std.Symm (Function.onFun List.Disjoint fun i => (declaredFor r i).map Declared.name) :=
    ⟨fun _ _ hij => List.Disjoint.symm hij⟩
  have hdisjoint := hnodup.2.forall hi hj hne
  exact hdisjoint (h.referenceVariable_mem hi hiknown) (heq ▸ h.referenceVariable_mem hj hjknown)

/-! ## Connections -/

theorem exists_sourceChain (h : Faultless r t) (hc : c ∈ t.connections) :
    ∃ source, t.find? c.source = some source ∧ source ∈ t.instances ∧
      (r.find? source.resourceType).isSome ∧ linkCalls r t c = sourceChain r source := by
  rcases h.exists_ends hc with ⟨source, target, hsource, -, hvalid, -⟩
  refine ⟨source, hsource, List.mem_of_find?_eq_some hsource,
    (exists_types_of_isConnectionValid hvalid).1, ?_⟩
  rw [linkCalls, hsource]
  rfl

theorem referenceChain_eq (h : Faultless r t) (id : String) :
    referenceChain r t id = (t.incoming id).flatMap (linkCalls r t) := by
  rw [referenceChain]
  refine List.flatMap_congr fun c hc => ?_
  rcases h.exists_sourceChain (List.mem_filter.1 hc).1 with ⟨source, hsource, hmem, -, hcalls⟩
  have hpresent : present source.name = true := by
    simpa [present] using h.name_ne_empty hmem
  simp only [hsource, hpresent, hcalls, if_true]

theorem count_sourceChain (source : ResourceInstance) (v : String) :
    (sourceChain r source).count (.reference v) = if referenceVariable r source = v then 1 else 0 := by
  rw [sourceChain]
  by_cases hv : referenceVariable r source = v
  · split <;> simp [hv]
  · split <;> simp [hv]

/-- As many references to the variable of a source as connections from it. -/
theorem count_reference (h : Faultless r t) (hc : c ∈ t.connections) {source : ResourceInstance}
    (hsource : t.find? c.source = some source) (id : String) :
    ((t.incoming id).flatMap (linkCalls r t)).count (.reference (referenceVariable r source)) =
      t.connections.countP fun e => e.source = c.source ∧ e.target = id := by
  rcases h.exists_sourceChain hc with ⟨source', hsource', hmem, hknown, -⟩
  obtain rfl : source' = source := Option.some.inj (hsource'.symm.trans hsource)
  have heach : ∀ e ∈ t.connections, (linkCalls r t e).count (.reference (referenceVariable r source')) =
      if e.source = c.source then 1 else 0 := by
    intro e he
    rcases h.exists_sourceChain he with ⟨s, hs, hsmem, hsknown, hcalls⟩
    -- different sources are referred to by different variables
    have hiff : referenceVariable r s = referenceVariable r source' ↔ e.source = c.source := by
      constructor
      · intro heq
        obtain rfl := h.referenceVariable_inj hsmem hmem hsknown hknown heq
        have hsid : s.id = e.source := by simpa using List.find?_some hs
        have hcid : s.id = c.source := by simpa using List.find?_some hsource'
        rw [← hsid, hcid]
      · intro heq
        rw [heq, hsource'] at hs
        rw [Option.some.inj hs]
    rw [hcalls, count_sourceChain]
    simp only [hiff]
  rw [Topology.incoming]
  exact List.count_flatMap_filter heach

/-- A source is declared before its target. -/
theorem exists_before (h : Faultless r t) (hd : t.DistinctIds) (hc : c ∈ t.connections)
    {source target : ResourceInstance} (hsource : t.find? c.source = some source)
    (htarget : t.find? c.target = some target) :
    ∃ l₁ l₂, t.sequence.ordered = l₁ ++ target :: l₂ ∧ source ∈ l₁ := by
  have hperm := h.ordered_perm hd
  rcases (Topology.find?_eq_some_iff hd).1 hsource with ⟨hsmem, hsid⟩
  rcases (Topology.find?_eq_some_iff hd).1 htarget with ⟨htmem, htid⟩
  rcases List.append_of_mem (hperm.mem_iff.2 htmem) with ⟨l₁, l₂, hsplit⟩
  refine ⟨l₁, l₂, hsplit, ?_⟩
  have hlink : c ∈ t.links := by rwa [h.links_eq]
  rcases Topology.exists_before_of_mem_links hd hlink hsplit htid with ⟨j, hj, hjid⟩
  have hjmem : j ∈ t.instances := by
    apply hperm.mem_iff.1
    rw [hsplit]
    exact List.mem_append_left _ hj
  rwa [← List.inj_on_of_nodup_map hd hjmem hsmem (hjid.trans hsid.symm)]

end Faultless

/-- Every connection is a line of the text, in the declaration of its target. -/
theorem holds_reference (hd : t.DistinctIds) {a : Artifacts} (hok : t.compile r o = .ok a)
    (hblocked : a.isBlocked = false) (hc : c ∈ t.connections) :
    ∃ source target d, t.find? c.source = some source ∧ t.find? c.target = some target ∧
      declare? r t target = some d ∧ a.appHost.Holds (d.render o) ∧
      (d.render o).Holds ("\n" ++ o.indent ++ ".WithReference(" ++ referenceVariable r source ++ ")") := by
  obtain ⟨h, -, rfl⟩ := compile_unblocked_iff.1 ⟨hok, hblocked⟩
  obtain ⟨source, target, hsource, htarget, hvalid, -⟩ := h.exists_ends hc
  obtain ⟨htmem, htid⟩ := (Topology.find?_eq_some_iff hd).1 htarget
  obtain ⟨d, hdecl⟩ := Option.isSome_iff_exists.1 (h.isSome_declare? htmem (exists_types_of_isConnectionValid hvalid).2)
  have hordered : target ∈ t.sequence.ordered := (h.ordered_perm hd).mem_iff.2 htmem
  refine ⟨source, target, d, hsource, htarget, hdecl, holds_render (List.mem_filterMap.2 ⟨_, hordered, hdecl⟩), ?_⟩
  -- the reference is among the calls that the declaration ends with
  have hcall : .reference (referenceVariable r source) ∈ d.links := by
    rw [links_of_declare? hdecl, h.referenceChain_eq]
    refine List.mem_flatMap.2 ⟨c, List.mem_filter.2 ⟨hc, decide_eq_true htid.symm⟩, ?_⟩
    rw [linkCalls, hsource]
    exact List.mem_cons_self
  obtain ⟨before, hrender⟩ := exists_render_eq_links o hdecl
  have hline := String.holds_join (List.mem_map_of_mem (f := fun c => "\n" ++ o.indent ++ c.render) hcall)
  rw [hrender]
  refine (String.holds_middle ..).trans (hline.trans ⟨"", "", ?_⟩)
  simp [ChainCall.render, ChainCall.method, ChainCall.arguments, String.append_assoc]

/-- The variables of an AppHost are distinct. For every connection the declaration of its target
refers to the variable that is declared for its source (for the database of its source, if it has
one), and this variable is declared earlier in the text. -/
theorem appHost_wellScoped (hd : t.DistinctIds) {a : Artifacts} (hok : t.compile r o = .ok a)
    (hblocked : a.isBlocked = false) :
    ∃ declarations, declarations = t.sequence.ordered.filterMap (declare? r t) ∧
      ((declarations.flatMap Declaration.statements).map Statement.name).Nodup ∧
        ∀ c ∈ t.connections, ∃ source target e s d,
          t.find? c.source = some source ∧ t.find? c.target = some target ∧
          declare? r t source = some e ∧ declare? r t target = some d ∧
          (∃ before after, declarations = before ++ d :: after ∧ e ∈ before) ∧
          e.statements.getLast? = some s ∧
          s.name = variableName ((r.databaseOf? source).getD source.name) ∧
          d.links = (t.incoming target.id).flatMap (linkCalls r t) ∧
          linkCalls r t c = .reference s.name ::
            (if r.categoryOf? source = some .database then [.waitFor s.name] else []) ∧
          d.links.count (.reference s.name) =
            t.connections.countP (fun c' => c'.source = c.source ∧ c'.target = c.target) ∧
          ∃ pre mid post, a.appHost = pre ++ s.render o.indent ++ mid ++ d.render o ++ post := by
  rcases compile_unblocked_iff.1 ⟨hok, hblocked⟩ with ⟨h, -, rfl⟩
  refine ⟨_, rfl, h.nodup_declarations hd, ?_⟩
  intro c hc
  rcases h.exists_ends hc with ⟨source, target, hsource, htarget, hvalid, -⟩
  rcases exists_types_of_isConnectionValid hvalid with ⟨hsknown, htknown⟩
  rcases (Topology.find?_eq_some_iff hd).1 hsource with ⟨hsmem, -⟩
  rcases (Topology.find?_eq_some_iff hd).1 htarget with ⟨htmem, htid⟩
  rcases Option.isSome_iff_exists.1 (h.isSome_declare? hsmem hsknown) with ⟨e, he⟩
  rcases Option.isSome_iff_exists.1 (h.isSome_declare? htmem htknown) with ⟨d, hdecl⟩
  rcases exists_getLast?_of_declare? he with ⟨s, hlast, hname⟩
  rcases h.exists_before hd hc hsource htarget with ⟨l₁, l₂, hsplit, hbefore⟩
  -- the source stands before the target in the order, and so do their declarations
  have hdeclarations : t.sequence.ordered.filterMap (declare? r t) =
      l₁.filterMap (declare? r t) ++ d :: l₂.filterMap (declare? r t) := by
    rw [hsplit, List.filterMap_append, List.filterMap_cons_some hdecl]
  have hemem : e ∈ l₁.filterMap (declare? r t) := List.mem_filterMap.2 ⟨source, hbefore, he⟩
  have hlinks : d.links = (t.incoming target.id).flatMap (linkCalls r t) := by
    rw [links_of_declare? hdecl, h.referenceChain_eq]
  refine ⟨source, target, e, s, d, hsource, htarget, he, hdecl, ⟨_, _, hdeclarations, hemem⟩, hlast,
    hname, hlinks, ?_, ?_, ?_⟩
  · rw [linkCalls, hsource, hname]
  · rw [hlinks, hname, h.count_reference hc hsource, htid]
  · rcases exists_render_eq (o := o) hdeclarations hemem with ⟨pre, mid, post, htext⟩
    rcases exists_render_eq_of_getLast? (o := o) hlast with ⟨start, hstart⟩
    refine ⟨pre ++ start, mid, post, ?_⟩
    rw [Artifacts.ofOrdered, htext, hstart]
    simp only [String.append_assoc]

theorem shop_wellScoped : ∃ a, shop.compile .standard .standard = .ok a ∧
    ∃ (s : Statement) (d : Declaration), d.links = [.reference "appdb", .waitFor "appdb"] ∧
      ∃ pre mid post, a.appHost = pre ++ s.render "    " ++ mid ++ d.render .standard ++ post := by
  rcases shop_compile with ⟨hok, hblocked⟩
  rcases appHost_wellScoped shop_distinctIds hok hblocked with ⟨_, -, -, hall⟩
  obtain ⟨source, target, e, s, d, hsource, htarget, -, -, -, -, -, hlinks, -, -, htext⟩ :=
    hall (.make "" "1" "2" .reference) List.mem_cons_self
  refine ⟨_, hok, s, d, ?_, htext⟩
  rcases (Topology.find?_eq_some_iff shop_distinctIds).1 htarget with ⟨-, htid⟩
  rw [hlinks, htid]
  decide +kernel

end HostTopology
