import HostTopology.Proofs.Recovery

/-!
# Replay — the declarations of an AppHost, read one after the other

The reader goes through the declarations for resources, then for databases, then statement by
statement. Each time the instances are followed in the order in which they are declared, from one
beginning of their list to the next.

* `Lineup` — the instances of a faultless topology that are declared, in order;
* `Listing` — the same, where no two connections lead from one instance to another;
* `place`, `table` — where each instance stands, and for which place each variable stands;
* `Lineup.exists_reading` — what has been read at the end, if all statements can be read;
* `Listing.exists_sketch` — that it is what the declarations show, if they are plain.
-/

namespace List

variable {α : Type}

/-- To prove a property of a whole list, go from each beginning of it to the next. -/
theorem of_split {P : List α → List α → Prop} {l : List α} (hnil : P [] l)
    (hstep : ∀ l₁ a l₂, l = l₁ ++ a :: l₂ → P l₁ (a :: l₂) → P (l₁ ++ [a]) l₂) : P l [] := by
  have hall : ∀ l₂ l₁, l = l₁ ++ l₂ → P l₁ l₂ → P l [] := by
    intro l₂
    -- by induction on what is left of the list
    induction l₂ with
    | nil =>
      intro l₁ hl h
      rwa [hl, append_nil]
    | cons a l₂ ih =>
      intro l₁ hl h
      refine ih (l₁ ++ [a]) ?_ (hstep l₁ a l₂ hl h)
      rw [hl, append_assoc, singleton_append]
  exact hall l [] rfl hnil

end List

namespace HostTopology
namespace AppHost

open Catalog Naming Validation

variable {t : Topology} {l l₁ l₂ : List ResourceInstance} {i : ResourceInstance} {type : ResourceType}
  {c : Connection} {r : Reading} {drafts : List Draft} {links : List (Nat × Nat)} {positions : List (String × Nat)}

/-! ## Instances in order -/

/-- The instances that are declared, in the order of their declarations. -/
structure Lineup (t : Topology) (l : List ResourceInstance) : Prop where
  faultless : Faultless .standard t
  mem : ∀ i ∈ l, i ∈ t.instances
  known : ∀ i ∈ l, (Registry.standard.find? i.resourceType).isSome
  complete : ∀ i ∈ t.instances, (Registry.standard.find? i.resourceType).isSome → i ∈ l
  ids : (l.map ResourceInstance.id).Nodup
  distinct : ((l.flatMap (declaredFor .standard)).map Declared.name).Nodup

structure Listing (t : Topology) (l : List ResourceInstance) : Prop extends Lineup t l where
  pairs : (t.connections.map fun c => (c.source, c.target)).Nodup

/-- The place of an id in a list of instances. -/
def place (l : List ResourceInstance) (id : String) : Nat :=
  (l.map ResourceInstance.id).idxOf id

theorem place_inj (hi : i ∈ l) {id : String} (heq : place l i.id = place l id) :
    i.id = id :=
  (List.idxOf_inj (List.mem_map_of_mem hi)).1 heq

theorem place_lt (hi : i ∈ l) : place l i.id < l.length := by
  have hlt := List.idxOf_lt_length_iff.2 (List.mem_map_of_mem (f := ResourceInstance.id) hi)
  rwa [List.length_map] at hlt

def ownEntry (l : List ResourceInstance) (i : ResourceInstance) : String × Nat :=
  (variableName i.name, place l i.id)

def databaseEntries (l : List ResourceInstance) (i : ResourceInstance) : List (String × Nat) :=
  (Registry.standard.databaseOf? i).toList.map fun database => (variableName database, place l i.id)

/-- The variables of `l` and of the databases of `l₁`, with the places they stand for. Later ones come
first. -/
def table (l l₁ : List ResourceInstance) : List (String × Nat) :=
  (l₁.flatMap (databaseEntries l)).reverse ++ (l.map (ownEntry l)).reverse

theorem table_append_singleton (l l₁ : List ResourceInstance) (i : ResourceInstance) :
    table l (l₁ ++ [i]) = (databaseEntries l i).reverse ++ table l l₁ := by
  simp [table, List.append_assoc]

namespace Lineup

theorem name_ne_empty (h : Lineup t l) (hi : i ∈ l) : i.name ≠ "" :=
  h.faultless.name_ne_empty (h.mem i hi)

theorem exists_type (h : Lineup t l) (hi : i ∈ l) :
    ∃ type, Registry.standard.find? i.resourceType = some type :=
  Option.isSome_iff_exists.1 (h.known i hi)

theorem place_eq (h : Lineup t l) (hl : l = l₁ ++ i :: l₂) : place l i.id = l₁.length := by
  have hnodup := h.ids
  rw [hl, List.map_append, List.map_cons] at hnodup
  rw [place, hl, List.map_append, List.map_cons, hnodup.idxOf_middle, List.length_map]

theorem getElem?_place (h : Lineup t l) (hi : i ∈ l) : l[place l i.id]? = some i := by
  rcases List.append_of_mem hi with ⟨l₁, l₂, hl⟩
  rw [h.place_eq hl, hl, List.getElem?_append_right le_rfl, Nat.sub_self]
  rfl

theorem map_name_declaredFor (h : Lineup t l) (hi : i ∈ l) : (declaredFor .standard i).map Declared.name =
    variableName i.name :: (Registry.standard.databaseOf? i).toList.map variableName := by
  rcases h.exists_type hi with ⟨type, htype⟩
  exact Validation.map_name_declaredFor (h.faultless.not_blank (h.mem i hi)) (by rw [htype, Option.isSome_some])

/-- The variables of the instances, and those of their databases, are all different. -/
theorem nodup_names (h : Lineup t l) : (l.map (fun i => variableName i.name) ++
    l.flatMap fun i => (Registry.standard.databaseOf? i).toList.map variableName).Nodup := by
  have hnames : (l.flatMap (declaredFor .standard)).map Declared.name =
      l.flatMap fun i => [variableName i.name] ++ (Registry.standard.databaseOf? i).toList.map variableName := by
    rw [List.map_flatMap]
    exact List.flatMap_congr fun i hi => h.map_name_declaredFor hi
  -- take the variables of the instances out in front of those of the databases
  have hperm := List.flatMap_append_perm l (fun i => [variableName i.name])
    fun i => (Registry.standard.databaseOf? i).toList.map variableName
  rw [← List.map_eq_flatMap] at hperm
  have hnodup := h.distinct
  rw [hnames] at hnodup
  exact hperm.nodup_iff.2 hnodup

theorem nodup_table (h : Lineup t l) (hl : l = l₁ ++ l₂) : ((table l l₁).map Prod.fst).Nodup := by
  have hdatabases : (l₁.flatMap (databaseEntries l)).map Prod.fst =
      l₁.flatMap fun i => (Registry.standard.databaseOf? i).toList.map variableName := by
    rw [List.map_flatMap]
    refine List.flatMap_congr fun i _ => ?_
    rw [databaseEntries, List.map_map]
    rfl
  have hown : (l.map (ownEntry l)).map Prod.fst = l.map fun i => variableName i.name := by
    rw [List.map_map]
    rfl
  -- the databases are those of a part of the instances
  have hsub : (l₁.flatMap fun i => (Registry.standard.databaseOf? i).toList.map variableName).Sublist
      (l.flatMap fun i => (Registry.standard.databaseOf? i).toList.map variableName) := by
    rw [hl, List.flatMap_append]
    exact List.sublist_append_left _ _
  have hnodup := h.nodup_names.sublist ((List.Sublist.refl _).append hsub)
  rw [table, List.map_append, List.map_reverse, List.map_reverse, hdatabases, hown]
  have hperm := (List.reverse_perm (l₁.flatMap fun i =>
    (Registry.standard.databaseOf? i).toList.map variableName)).append
      (List.reverse_perm (l.map fun i => variableName i.name))
  exact (hperm.trans List.perm_append_comm).nodup_iff.2 hnodup

theorem lookup_own (h : Lineup t l) (hl : l = l₁ ++ l₂) (hi : i ∈ l) :
    (table l l₁).lookup (variableName i.name) = some (place l i.id) := by
  refine List.lookup_of_mem (h.nodup_table hl) (List.mem_append_right _ (List.mem_reverse.2 ?_))
  exact List.mem_map_of_mem (f := ownEntry l) hi

theorem lookup_database (h : Lineup t l) (hi : i ∈ l) {database : String}
    (hdatabase : Registry.standard.databaseOf? i = some database) :
    (table l l).lookup (variableName database) = some (place l i.id) := by
  have hl : l = l ++ [] := (List.append_nil l).symm
  refine List.lookup_of_mem (h.nodup_table hl) (List.mem_append_left _ (List.mem_reverse.2 ?_))
  refine List.mem_flatMap.2 ⟨i, hi, ?_⟩
  rw [databaseEntries, hdatabase]
  exact List.mem_singleton.2 rfl

/-- The variable that others use stands for the place of an instance. -/
theorem lookup_reference (h : Lineup t l) (hi : i ∈ l) :
    (table l l).lookup (referenceVariable .standard i) = some (place l i.id) := by
  rw [referenceVariable]
  cases hdatabase : Registry.standard.databaseOf? i with
  | none => exact h.lookup_own (List.append_nil l).symm hi
  | some database => exact h.lookup_database hi hdatabase

end Lineup

/-! ## Resources -/

theorem findByBuilder?_eq (htype : type ∈ resourceTypes) :
    Registry.standard.findByBuilder? type.builder.name = some type := by
  have hkeys : (resourceTypes.map fun type => Text.lower type.builder.name.toList).Nodup := by decide
  have hreverse := List.nodup_reverse.2 hkeys
  rw [← List.map_reverse] at hreverse
  exact (List.find?_key_eq_some_iff hreverse).2 ⟨List.mem_reverse.2 htype, rfl⟩

theorem resourceCall?_server (htype : Registry.standard.find? i.resourceType = some type)
    (chain : List ChainCall) :
    (serverStatement i type chain).resourceCall? = some ⟨variableName i.name, type.builder.name, i.name⟩ := by
  rw [Statement.resourceCall?, serverStatement, if_pos (receiver_openingCall _ _ _), method_openingCall htype,
    name_openingCall]

/-- The statement of a resource is read as that resource. -/
theorem Reading.IsAt.addServer (h : r.IsAt drafts links positions)
    (htype : Registry.standard.find? i.resourceType = some type) :
    (Reading.addResource .standard r ⟨variableName i.name, type.builder.name, i.name⟩).IsAt
      (drafts ++ [firstDraft i]) links ((variableName i.name, drafts.length) :: positions) := by
  rcases h with ⟨hdrafts, hlinks, hpositions⟩
  have hfind := findByBuilder?_eq (Registry.mem_types htype).1
  rw [Reading.addResource, hfind]
  refine ⟨?_, hlinks, ?_⟩
  · change r.sketch.drafts ++ [Reading.draftOf type i.name] = _
    rw [hdrafts, draftOf_eq htype]
  · change (variableName i.name, r.sketch.drafts.length) :: r.positions = _
    rw [hdrafts, hpositions]

/-- A server whose variable is the builder's name makes its database look like a resource, but of no
known type. -/
theorem Reading.IsAt.addUnknown (h : r.IsAt drafts links positions) (name database : String) :
    (Reading.addResource .standard r ⟨name, "AddDatabase", database⟩).IsAt drafts links positions := by
  have hfind : Registry.standard.findByBuilder? "AddDatabase" = none := by decide
  rcases h with ⟨hdrafts, hlinks, hpositions⟩
  rw [Reading.addResource, hfind]
  exact ⟨hdrafts, hlinks, hpositions⟩

theorem Reading.IsAt.addResources (h : r.IsAt drafts links positions) (hname : i.name ≠ "")
    (htype : Registry.standard.find? i.resourceType = some type) :
    (((statementsOf t i).filterMap Statement.resourceCall?).foldl (Reading.addResource .standard) r).IsAt
      (drafts ++ [firstDraft i]) links ((variableName i.name, drafts.length) :: positions) := by
  have hserver := h.addServer htype
  cases hdatabase : Registry.standard.databaseOf? i with
  | none =>
    rw [statementsOf_of_no_database hname htype hdatabase, List.filterMap_cons,
      resourceCall?_server htype]
    exact hserver
  | some database =>
    rw [statementsOf_of_database hname htype hdatabase, List.filterMap_cons, resourceCall?_server htype,
      List.filterMap_cons, Statement.resourceCall?]
    -- a database is taken for a resource only if its server is called like the builder
    split_ifs
    · exact hserver.addUnknown _ _
    · exact hserver

/-- After the first time every instance stands in its place. -/
theorem Lineup.resources (h : Lineup t l) :
    (((l.flatMap (statementsOf t)).filterMap Statement.resourceCall?).foldl (Reading.addResource .standard)
      .empty).IsAt (l.map firstDraft) [] (table l []) := by
  have hempty : Reading.empty.IsAt [] [] [] := ⟨rfl, rfl, rfl⟩
  refine List.of_split (P := fun l₁ _ =>
    (((l₁.flatMap (statementsOf t)).filterMap Statement.resourceCall?).foldl (Reading.addResource .standard)
      .empty).IsAt (l₁.map firstDraft) [] (l₁.map (ownEntry l)).reverse) hempty ?_
  intro l₁ i l₂ hl hread
  have hi : i ∈ l := hl ▸ List.mem_append_right l₁ List.mem_cons_self
  rcases h.exists_type hi with ⟨type, htype⟩
  -- the next place is the number of instances so far
  have hnext := hread.addResources (t := t) (h.name_ne_empty hi) htype
  rw [List.length_map, ← h.place_eq hl] at hnext
  rw [List.flatMap_append, List.flatMap_singleton, List.filterMap_append, List.foldl_append, List.map_append,
    List.map_append, List.reverse_append]
  exact hnext

/-! ## Databases -/

theorem databaseCall?_server (htype : Registry.standard.find? i.resourceType = some type)
    (chain : List ChainCall) : (serverStatement i type chain).databaseCall? = none := by
  have hall : ∀ type ∈ resourceTypes, type.builder.name ≠ "AddDatabase" := by decide
  have hne := hall type (Registry.mem_types htype).1
  rw [Statement.databaseCall?, serverStatement, method_openingCall htype, if_neg hne]

theorem databaseCalls_eq (hname : i.name ≠ "") (htype : Registry.standard.find? i.resourceType = some type) :
    (statementsOf t i).filterMap Statement.databaseCall? = (Registry.standard.databaseOf? i).toList.map
      fun database => ⟨variableName database, variableName i.name, database⟩ := by
  cases hdatabase : Registry.standard.databaseOf? i with
  | none =>
    rw [statementsOf_of_no_database hname htype hdatabase, List.filterMap_cons, databaseCall?_server htype]
    rfl
  | some database =>
    rw [statementsOf_of_database hname htype hdatabase, List.filterMap_cons, databaseCall?_server htype]
    rfl

/-- A database is noted at its server. -/
theorem Reading.IsAt.addDatabases {before after : List Draft}
    (h : r.IsAt (before ++ firstDraft i :: after) links positions)
    (hown : positions.lookup (variableName i.name) = some before.length) :
    (((Registry.standard.databaseOf? i).toList.map fun database =>
      (⟨variableName database, variableName i.name, database⟩ : DatabaseCall)).foldl Reading.addDatabase r).IsAt
      (before ++ namedDraft i :: after) links
        (((Registry.standard.databaseOf? i).toList.map fun database =>
          (variableName database, before.length)).reverse ++ positions) := by
  cases hdatabase : Registry.standard.databaseOf? i with
  | none =>
    have hsame : namedDraft i = firstDraft i := by
      rw [namedDraft, hdatabase]
      rfl
    rw [hsame]
    exact h
  | some database =>
    rcases h with ⟨hdrafts, hlinks, hpositions⟩
    -- the server has been declared, at the position where it is now
    have hlookup : r.positions.lookup (variableName i.name) = some before.length := by rwa [hpositions]
    change (Reading.addDatabase r ⟨variableName database, variableName i.name, database⟩).IsAt _ _ _
    rw [Reading.addDatabase, hlookup]
    refine ⟨?_, hlinks, ?_⟩
    · change r.sketch.drafts.modify before.length _ = _
      rw [hdrafts, List.modify_append_cons, namedDraft, hdatabase]
    · change (variableName database, before.length) :: r.positions = _
      rw [hpositions]
      rfl

theorem Lineup.databases (h : Lineup t l) (hr : r.IsAt (l.map firstDraft) [] (table l [])) :
    (((l.flatMap (statementsOf t)).filterMap Statement.databaseCall?).foldl Reading.addDatabase r).IsAt
      (l.map namedDraft) [] (table l l) := by
  have hlast : (((l.flatMap (statementsOf t)).filterMap Statement.databaseCall?).foldl Reading.addDatabase r).IsAt
      (l.map namedDraft ++ [].map firstDraft) [] (table l l) := by
    refine List.of_split (P := fun l₁ l₂ =>
      (((l₁.flatMap (statementsOf t)).filterMap Statement.databaseCall?).foldl Reading.addDatabase r).IsAt
        (l₁.map namedDraft ++ l₂.map firstDraft) [] (table l l₁)) hr ?_
    intro l₁ i l₂ hl hread
    have hi : i ∈ l := hl ▸ List.mem_append_right l₁ List.mem_cons_self
    rcases h.exists_type hi with ⟨type, htype⟩
    -- the server's variable stands for the place of the instance, which is next
    have hplace : place l i.id = (l₁.map namedDraft).length := by rw [h.place_eq hl, List.length_map]
    have hown := h.lookup_own hl hi
    rw [hplace] at hown
    rw [List.map_cons] at hread
    have hnext := hread.addDatabases hown
    rw [← hplace] at hnext
    rw [List.flatMap_append, List.flatMap_singleton, List.filterMap_append, List.foldl_append,
      databaseCalls_eq (h.name_ne_empty hi) htype, table_append_singleton, List.map_append,
      List.append_assoc]
    exact hnext
  rwa [List.map_nil, List.append_nil] at hlast

/-! ## Statements -/

/-- The links to an instance, in the order of its connections. -/
def linksTo (t : Topology) (l : List ResourceInstance) (i : ResourceInstance) : List (Nat × Nat) :=
  (t.incoming i.id).map fun c => (place l c.source, place l i.id)

namespace Lineup

theorem exists_source (h : Lineup t l) (hc : c ∈ t.connections) :
    ∃ source ∈ l, source.id = c.source ∧
      linkCalls .standard t c = sourceChain .standard source := by
  rcases h.faultless.exists_sourceChain hc with ⟨source, hfind, hmem, hknown, hcalls⟩
  exact ⟨source, h.complete source hmem hknown, by simpa using List.find?_some hfind, hcalls⟩

theorem exists_target (h : Lineup t l) (hc : c ∈ t.connections) : ∃ target ∈ l, target.id = c.target := by
  rcases h.faultless.exists_ends hc with ⟨source, target, -, hfind, hvalid, -⟩
  have hknown := (exists_types_of_isConnectionValid hvalid).2
  exact ⟨target, h.complete target (List.mem_of_find?_eq_some hfind) hknown, by simpa using List.find?_some hfind⟩

/-- The variables in the references of an instance stand for the sources of its connections. -/
theorem lookup_references (h : Lineup t l) (id : String) :
    ((referenceChain .standard t id).filterMap ChainCall.reference?).filterMap
        (fun name => (table l l).lookup name) =
      (t.incoming id).map fun c => place l c.source := by
  -- every connection has one reference, and its variable is that of the source
  have hsource : ∀ c ∈ t.incoming id,
      ((linkCalls .standard t c).filterMap ChainCall.reference?).filterMap
        (fun name => (table l l).lookup name) = [place l c.source] := by
    intro c hc
    rcases h.exists_source (List.mem_filter.1 hc).1 with ⟨source, hmem, hid, hcalls⟩
    have hname : (sourceChain .standard source).filterMap ChainCall.reference? =
        [referenceVariable .standard source] := by
      rw [sourceChain]
      by_cases hserver : Registry.standard.categoryOf? source = some .database
      · rw [if_pos hserver]
        rfl
      · rw [if_neg hserver]
        rfl
    rw [hcalls, hname, ← hid, List.filterMap_cons, h.lookup_reference hmem]
    rfl
  rw [h.faultless.referenceChain_eq, List.map_eq_flatMap, List.filterMap_flatMap, List.filterMap_flatMap]
  exact List.flatMap_congr hsource

theorem place_not_mem_sources (h : Lineup t l) (hi : i ∈ l) :
    place l i.id ∉ (t.incoming i.id).map fun c => place l c.source := by
  intro hmem
  rcases List.mem_map.1 hmem with ⟨c, hc, heq⟩
  rcases List.mem_filter.1 hc with ⟨hconnection, htarget⟩
  rcases h.faultless.exists_ends hconnection with ⟨-, -, -, -, -, hne⟩
  have hid := place_inj hi heq.symm
  exact hne (hid.symm.trans (of_decide_eq_true htarget).symm)

theorem place_eq_length (h : Lineup t l) (hl : l = l₁ ++ i :: l₂) :
    place l i.id = (l₁.map recovered).length := by
  rw [h.place_eq hl, List.length_map]

end Lineup

namespace Listing

theorem nodup_sources (h : Listing t l) (id : String) :
    ((t.incoming id).map fun c => place l c.source).Nodup := by
  have hconnections : t.connections.Nodup := List.Nodup.of_map _ h.pairs
  refine List.Nodup.map_on ?_ (hconnections.filter _)
  intro c hc c' hc' heq
  rcases List.mem_filter.1 hc with ⟨hmem, htarget⟩
  rcases List.mem_filter.1 hc' with ⟨hmem', htarget'⟩
  rcases h.exists_source hmem with ⟨source, hsource, hid, -⟩
  rw [← hid] at heq
  have hsame : c.source = c'.source := hid.symm.trans (place_inj hsource heq)
  -- two connections with one source and one target would be a repeated pair
  refine List.inj_on_of_nodup_map h.pairs hmem hmem' (Prod.ext hsame ?_)
  exact (of_decide_eq_true htarget).trans (of_decide_eq_true htarget').symm

/-- What has been linked before leads to other instances. -/
theorem not_mem_links (h : Listing t l) (hl : l = l₁ ++ i :: l₂) (source : Nat) :
    (source, place l i.id) ∉ l₁.flatMap (linksTo t l) := by
  intro hmem
  rcases List.mem_flatMap.1 hmem with ⟨j, hj, hmem⟩
  rcases List.mem_map.1 hmem with ⟨c, -, heq⟩
  have hjmem : j ∈ l := hl ▸ List.mem_append_left _ hj
  have hid := place_inj hjmem (Prod.mk.inj heq).2
  have hnodup := h.ids
  rw [hl, List.map_append, List.map_cons] at hnodup
  exact hnodup.not_mem_before (hid ▸ List.mem_map_of_mem hj)

end Listing

theorem references_server (i : ResourceInstance) (type : ResourceType) (chain : List ChainCall) :
    (serverStatement i type chain).references = chain.filterMap ChainCall.reference? := by
  rw [Statement.references, serverStatement, List.filterMap_append, references_configChain, List.nil_append]

variable {indent : List Char}

namespace Listing

theorem linksTo_next (h : Listing t l) (hl : l = l₁ ++ i :: l₂) :
    (l₁ ++ [i]).flatMap (linksTo t l) = l₁.flatMap (linksTo t l) ++
      ((t.incoming i.id).map fun c => place l c.source).map fun source =>
        (source, (l₁.map recovered).length) := by
  rw [List.flatMap_append, List.flatMap_singleton, linksTo, ← h.place_eq_length hl, List.map_map]
  rfl

/-- A statement with the references of an instance is read into its place, whichever of the variables
of the instance it assigns to. -/
theorem apply_references (h : Listing t l) (hl : l = l₁ ++ i :: l₂) (hindent : IsIndent indent)
    {g : Segment} (hg : g.IsPlain) {draft : Draft}
    (hr : r.IsAt (l₁.map recovered ++ draft :: drafts) (l₁.flatMap (linksTo t l)) (table l l))
    (hown : (table l l).lookup g.statement.name = some (place l i.id))
    (hreferences : g.statement.references =
      (referenceChain .standard t i.id).filterMap ChainCall.reference?) :
    ∃ r', Reading.apply r (g.piece indent) = .ok r' ∧
      r'.IsAt (l₁.map recovered ++ { draft with config := g.statement.configured draft.config } :: drafts)
        ((l₁ ++ [i]).flatMap (linksTo t l)) (table l l) := by
  have hi : i ∈ l := hl ▸ List.mem_append_right l₁ List.mem_cons_self
  have hplace := h.place_eq_length hl
  have hself := h.place_not_mem_sources hi
  have hnew : ∀ source ∈ (t.incoming i.id).map fun c => place l c.source,
      (source, (l₁.map recovered).length) ∉ l₁.flatMap (linksTo t l) := by
    intro source _
    rw [← hplace]
    exact h.not_mem_links hl source
  have hsources : g.statement.references.filterMap (fun name => (table l l).lookup name) =
      (t.incoming i.id).map fun c => place l c.source := by
    rw [hreferences, h.lookup_references]
  rw [hplace] at hself hown
  rw [h.linksTo_next hl]
  exact hr.apply_piece hg hindent hown hsources (h.nodup_sources i.id) hself hnew

/-- A server without a database has everything in one statement. -/
theorem apply_server (h : Listing t l) (hl : l = l₁ ++ i :: l₂) (hindent : IsIndent indent)
    (htype : Registry.standard.find? i.resourceType = some type)
    (hdatabase : Registry.standard.databaseOf? i = none)
    (hplain : ∀ d, declare? .standard t i = some d → d.IsPlain)
    (hr : r.IsAt (l₁.map recovered ++ namedDraft i :: drafts) (l₁.flatMap (linksTo t l)) (table l l)) :
    ∃ r', ((segmentsOf t i).map (Segment.piece indent)).foldlM Reading.apply r = .ok r' ∧
      r'.IsAt (l₁.map recovered ++ recovered i :: drafts) ((l₁ ++ [i]).flatMap (linksTo t l)) (table l l) := by
  have hi : i ∈ l := hl ▸ List.mem_append_right l₁ List.mem_cons_self
  have hdeclare := declare?_of_no_database (t := t) (h.name_ne_empty hi) htype hdatabase
  have hg : Segment.IsPlain ⟨['\n', '\n'], serverStatement i type (referenceChain .standard t i.id)⟩ :=
    ⟨isGap_breaks, (hplain _ hdeclare).statements _ List.mem_cons_self⟩
  have hown := h.lookup_own (List.append_nil l).symm hi
  rcases h.apply_references hl hindent hg hr hown (references_server i type _) with ⟨r', happly, hat⟩
  have hconfig : (serverStatement i type (referenceChain .standard t i.id)).configured
      (namedDraft i).config = recoveredConfig i := configured_server isLink_referenceChain htype
  have hsegments := segmentsOf_of_no_database (t := t) (h.name_ne_empty hi) htype hdatabase
  refine ⟨r', ?_, ?_⟩
  · rw [hsegments, List.map_singleton, List.foldlM_cons, happly]
    rfl
  · rw [hconfig] at hat
    exact hat

/-- A database has the references in a statement of its own, after that with the configuration. -/
theorem apply_database (h : Listing t l) (hl : l = l₁ ++ i :: l₂) (hindent : IsIndent indent)
    (htype : Registry.standard.find? i.resourceType = some type) {database : String}
    (hdatabase : Registry.standard.databaseOf? i = some database)
    (hplain : ∀ d, declare? .standard t i = some d → d.IsPlain)
    (hr : r.IsAt (l₁.map recovered ++ namedDraft i :: drafts) (l₁.flatMap (linksTo t l)) (table l l)) :
    ∃ r', ((segmentsOf t i).map (Segment.piece indent)).foldlM Reading.apply r = .ok r' ∧
      r'.IsAt (l₁.map recovered ++ recovered i :: drafts) ((l₁ ++ [i]).flatMap (linksTo t l)) (table l l) := by
  have hi : i ∈ l := hl ▸ List.mem_append_right l₁ List.mem_cons_self
  have hdeclare := declare?_of_database (t := t) (h.name_ne_empty hi) htype hdatabase
  have hstatements := (hplain _ hdeclare).statements
  have hbreak : IsGap ['\n'] := by decide
  have hserver : Segment.IsPlain ⟨['\n', '\n'], serverStatement i type []⟩ :=
    ⟨isGap_breaks, hstatements _ List.mem_cons_self⟩
  have hsecond : Segment.IsPlain ⟨['\n'], databaseStatement t i database⟩ :=
    ⟨hbreak, hstatements _ (List.mem_cons_of_mem _ List.mem_cons_self)⟩
  -- the server: its configuration, and no references
  have hown := h.lookup_own (List.append_nil l).symm hi
  rw [h.place_eq_length hl] at hown
  have hnothing : (serverStatement i type []).references.filterMap
      (fun name => (table l l).lookup name) = [] := by
    rw [references_server]
    rfl
  obtain ⟨r₁, happly₁, hat₁⟩ := hr.apply_piece hserver hindent hown hnothing List.nodup_nil
    List.not_mem_nil (fun source hsource => absurd hsource List.not_mem_nil)
  have hconfig : (serverStatement i type []).configured (namedDraft i).config = recoveredConfig i :=
    configured_server (fun c hc => absurd hc List.not_mem_nil) htype
  rw [hconfig, List.map_nil, List.append_nil] at hat₁
  -- the database: references, and nothing that changes the configuration
  have hsame : (databaseStatement t i database).configured (recoveredConfig i) = recoveredConfig i :=
    configured_of_isLink isLink_referenceChain _
  rcases h.apply_references hl hindent hsecond hat₁ (h.lookup_database hi hdatabase) rfl with
    ⟨r₂, happly₂, hat₂⟩
  have hsegments := segmentsOf_of_database (t := t) (h.name_ne_empty hi) htype hdatabase
  refine ⟨r₂, ?_, ?_⟩
  · rw [hsegments, List.map_cons, List.map_singleton, List.foldlM_cons]
    refine Except.bind_eq_ok_iff.2 ⟨r₁, happly₁, ?_⟩
    rw [List.foldlM_cons]
    exact Except.bind_eq_ok_iff.2 ⟨r₂, happly₂, rfl⟩
  · rw [hsame] at hat₂
    exact hat₂

/-- The statements of an instance are read into its place. -/
theorem apply_instance (h : Listing t l) (hl : l = l₁ ++ i :: l₂) (hindent : IsIndent indent)
    (hplain : ∀ d, declare? .standard t i = some d → d.IsPlain)
    (hr : r.IsAt (l₁.map recovered ++ namedDraft i :: drafts) (l₁.flatMap (linksTo t l)) (table l l)) :
    ∃ r', ((segmentsOf t i).map (Segment.piece indent)).foldlM Reading.apply r = .ok r' ∧
      r'.IsAt (l₁.map recovered ++ recovered i :: drafts) ((l₁ ++ [i]).flatMap (linksTo t l)) (table l l) := by
  have hi : i ∈ l := hl ▸ List.mem_append_right l₁ List.mem_cons_self
  rcases h.exists_type hi with ⟨type, htype⟩
  cases hdatabase : Registry.standard.databaseOf? i with
  | none => exact h.apply_server hl hindent htype hdatabase hplain hr
  | some database => exact h.apply_database hl hindent htype hdatabase hplain hr

end Listing

/-- After the last time every instance is what is recovered of it, and every connection is a link. -/
theorem Listing.statements (h : Listing t l) (hindent : IsIndent indent)
    (hplain : ∀ i ∈ l, ∀ d, declare? .standard t i = some d → d.IsPlain)
    (hr : r.IsAt (l.map namedDraft) [] (table l l)) :
    ∃ r', ((l.flatMap (segmentsOf t)).map (Segment.piece indent)).foldlM Reading.apply r = .ok r' ∧
      r'.IsAt (l.map recovered) (l.flatMap (linksTo t l)) (table l l) := by
  have hlast : ∃ r', ((l.flatMap (segmentsOf t)).map (Segment.piece indent)).foldlM Reading.apply r = .ok r' ∧
      r'.IsAt (l.map recovered ++ [].map namedDraft) (l.flatMap (linksTo t l)) (table l l) := by
    -- what has been read is recovered, what has not is as it was named
    refine List.of_split (P := fun l₁ l₂ =>
      ∃ r', ((l₁.flatMap (segmentsOf t)).map (Segment.piece indent)).foldlM Reading.apply r = .ok r' ∧
        r'.IsAt (l₁.map recovered ++ l₂.map namedDraft) (l₁.flatMap (linksTo t l)) (table l l))
      ⟨r, rfl, hr⟩ ?_
    rintro l₁ i l₂ hl ⟨r₁, hfold, hread⟩
    have hi : i ∈ l := hl ▸ List.mem_append_right l₁ List.mem_cons_self
    rw [List.map_cons] at hread
    rcases h.apply_instance hl hindent (hplain i hi) hread with ⟨r₂, hstep, hnext⟩
    refine ⟨r₂, ?_, ?_⟩
    · rw [List.flatMap_append, List.flatMap_singleton, List.map_append, List.foldlM_append, hfold]
      exact hstep
    · rw [List.map_append, List.append_assoc]
      exact hnext
  rwa [List.map_nil, List.append_nil] at hlast

/-! ## The whole AppHost -/

theorem flatMap_segments (t : Topology) (l : List ResourceInstance) :
    (l.filterMap (declare? .standard t)).flatMap Declaration.segments = l.flatMap (segmentsOf t) := by
  rw [List.filterMap_eq_flatMap_toList, List.flatMap_assoc]
  rfl

theorem map_statement_segmentsOf (t : Topology) (l : List ResourceInstance) :
    (l.flatMap (segmentsOf t)).map Segment.statement = l.flatMap (statementsOf t) := by
  rw [List.map_flatMap]
  refine List.flatMap_congr fun i _ => ?_
  rw [segmentsOf, statementsOf, List.map_flatMap]
  exact List.flatMap_congr fun d _ => map_statement_segmentsAfter _ _

/-- The first lines, and what comes after the last statement, say nothing. -/
theorem foldlM_code {o : RenderOptions} {packages : List String} {gs : List Segment} {gap : List Char}
    (hchars : ∀ c ∈ directives o packages, isHeadingChar c = true) (hgap : IsGap gap) {r' : Reading}
    (hfold : (gs.flatMap fun g => Text.splitAll (· = ';') (g.piece o.indent.toList)).foldlM Reading.apply r =
      .ok r') :
    (Text.splitAll (· = ';') (code o packages gs gap)).foldlM Reading.apply r = .ok r' := by
  have hempty : Reading.apply r' [] = .ok r' := Reading.apply_of_owner_eq_none rfl
  rw [splitAll_code hchars gs hgap, List.foldlM_cons, Reading.apply_of_owner_eq_none (owner_lead _ _)]
  change List.foldlM Reading.apply _ _ = _
  rw [List.foldlM_append, hfold]
  change List.foldlM Reading.apply r' [gap ++ runPiece, []] = _
  rw [List.foldlM_cons, Reading.apply_runPiece hgap]
  change List.foldlM Reading.apply r' [[]] = _
  rw [List.foldlM_cons, hempty]
  rfl

section Whole

variable {o : RenderOptions} {ordered : List ResourceInstance}

/-- The AppHost of the instances of a lineup is read as far as the pieces of its statements can be read, one
after the other, once all variables are known. -/
theorem Lineup.exists_reading (h : Lineup t l)
    (hdeclared : ordered.filterMap (declare? .standard t) = l.filterMap (declare? .standard t))
    (hchars : ∀ c ∈ directives o (Registry.standard.requiredPackages
      (ordered.map ResourceInstance.resourceType)), isHeadingChar c = true)
    (hinert : ∀ i ∈ l, ∀ d, declare? .standard t i = some d → d.IsInert) {Q : Reading → Prop}
    (hread : ∀ r : Reading, r.IsAt (l.map namedDraft) [] (table l l) →
      ∃ r', ((l.flatMap (segmentsOf t)).flatMap fun g =>
        Text.splitAll (· = ';') (g.piece o.indent.toList)).foldlM Reading.apply r = .ok r' ∧ Q r') :
    ∃ r' s, Sketch.ofAppHost .standard (render .standard t o ordered) = .ok s ∧ Q r' ∧
      s.drafts = r'.sketch.drafts ∧ s.links = r'.sketch.links := by
  have hds : ∀ d ∈ ordered.filterMap (declare? .standard t), d.IsInert := by
    intro d hd
    rw [hdeclared] at hd
    rcases List.mem_filterMap.1 hd with ⟨i, hi, hdeclare⟩
    exact hinert i hi d hdeclare
  have hgs : ∀ g ∈ l.flatMap (segmentsOf t), g.IsInert := by
    intro g hg
    rw [← flatMap_segments, ← hdeclared] at hg
    rcases List.mem_flatMap.1 hg with ⟨d, hd, hg⟩
    exact (hds d hd).segments g hg
  -- what is read is the code, without comments
  rcases exists_dropComments_render hchars hds with ⟨gap, hgap, hcode⟩
  rw [hdeclared, flatMap_segments] at hcode
  -- resources, then databases, then statement by statement
  rcases hread _ (h.databases h.resources) with ⟨r', hfold, hQ⟩
  have hpieces := foldlM_code hchars hgap hfold
  have hsketch : Sketch.ofAppHost .standard (render .standard t o ordered) =
      .ok (if r'.sketch.drafts.isEmpty then r'.sketch.warn nothingFound else r'.sketch) := by
    rw [Sketch.ofAppHost, hcode, all_declaration_code hchars hgs hgap,
      all_databaseDeclaration_code hchars hgs hgap, map_statement_segmentsOf]
    simp only [hpieces]
    rfl
  refine ⟨r', _, hsketch, hQ, ?_⟩
  split
  · exact ⟨rfl, rfl⟩
  · exact ⟨rfl, rfl⟩

/-- A plain statement is one piece. -/
theorem splitAll_plain {indent : List Char} {gs : List Segment} (hindent : IsIndent indent)
    (hgs : ∀ g ∈ gs, g.IsPlain) :
    (gs.flatMap fun g => Text.splitAll (· = ';') (g.piece indent)) = gs.map (Segment.piece indent) := by
  rw [List.map_eq_flatMap]
  exact List.flatMap_congr fun g hg =>
    splitAll_of_not_mem (semicolon_not_mem_stem (hgs g hg).gap hindent (hgs g hg).statement)

/-- The sketch that is read back from the AppHost of the instances of a listing. -/
theorem Listing.exists_sketch (h : Listing t l)
    (hdeclared : ordered.filterMap (declare? .standard t) = l.filterMap (declare? .standard t))
    (hchars : ∀ c ∈ directives o (Registry.standard.requiredPackages
      (ordered.map ResourceInstance.resourceType)), isHeadingChar c = true)
    (hplain : ∀ i ∈ l, ∀ d, declare? .standard t i = some d → d.IsPlain) :
    ∃ s, Sketch.ofAppHost .standard (render .standard t o ordered) = .ok s ∧
      s.drafts = l.map recovered ∧ s.links = l.flatMap (linksTo t l) := by
  have hgs : ∀ g ∈ l.flatMap (segmentsOf t), g.IsPlain := by
    intro g hg
    rcases List.mem_flatMap.1 hg with ⟨i, hi, hg⟩
    rcases List.mem_flatMap.1 hg with ⟨d, hd, hg⟩
    exact (hplain i hi d (Option.mem_toList.1 hd)).segments g hg
  have hread : ∀ r : Reading, r.IsAt (l.map namedDraft) [] (table l l) →
      ∃ r', ((l.flatMap (segmentsOf t)).flatMap fun g =>
        Text.splitAll (· = ';') (g.piece o.indent.toList)).foldlM Reading.apply r = .ok r' ∧
          r'.IsAt (l.map recovered) (l.flatMap (linksTo t l)) (table l l) := by
    intro r hr
    rw [splitAll_plain (isIndent_indent o) hgs]
    exact h.statements (isIndent_indent o) hplain hr
  rcases h.exists_reading hdeclared hchars (fun i hi d hd => (hplain i hi d hd).inert) hread with
    ⟨r', s, hs, hat, hdrafts, hlinks⟩
  exact ⟨s, hs, hdrafts.trans hat.drafts_eq, hlinks.trans hat.links_eq⟩

end Whole

end AppHost
end HostTopology
