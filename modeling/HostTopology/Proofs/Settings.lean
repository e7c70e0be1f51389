import HostTopology.Proofs.Constraints
import HostTopology.Proofs.Reprint
import HostTopology.Proofs.Shapes

/-!
# Settings — every connection string has an entry of its own

The connection strings of the settings are put into a mapping one after the other, under names that come from
two fields of the instances. A name that came twice would take the place of the first. No rule compares these
names; but each of them is what the variable that others refer to is made from, and variables differ.

* `Companion.isServed`, `Companion.connectionName` — who has a connection string, and under which name;
* `connectionKey?_eq` — the name is the one behind the variable of the instance;
* `Json.holds_of_member?` — a member of an object stands in its text, behind its name;
* `nodup_connectionNames` — what has passed validation is served under different names;
* `settings_complete` — one entry for every database server, cache and broker, none lost;
* `holds_connectionString` — the entry as a line of the text.
-/

namespace HostTopology

open Catalog AppHost Validation Naming

variable {r : Registry} {t : Topology} {i : ResourceInstance} {type : ResourceType} {d : Declaration}
  {o : RenderOptions} {a : Artifacts}

namespace Json

variable {name : String} {j whole : Json} {members : List (String × Json)} {items : List Json} {indent : Nat}

/-- What an object has under a name. -/
def member? (name : String) : Json → Option Json
  | .object members => members.lookup name
  | _ => none

/-! ## Members in the text -/

theorem renderMembers_eq (indent : Nat) (members : List (String × Json)) :
    renderMembers indent members = members.map fun m => quote m.1 ++ ": " ++ renderAt indent m.2 := by
  induction members with
  | nil => rfl
  | cons m members ih => rw [renderMembers, ih, List.map_cons]

theorem renderAll_eq (indent : Nat) (items : List Json) : renderAll indent items = items.map (renderAt indent) := by
  induction items with
  | nil => rfl
  | cons j items ih => rw [renderAll, ih, List.map_cons]

/-- The text of an object has every member in it, behind its name. -/
theorem holds_renderAt_object (h : (name, j) ∈ members) (indent : Nat) :
    (renderAt indent (.object members)).Holds (quote name ++ ": " ++ renderAt (indent + 2) j) := by
  cases members with
  | nil => exact absurd h List.not_mem_nil
  | cons m members =>
    rw [renderAt, renderMembers_eq, String.append_assoc]
    · exact (String.holds_middle ..).trans (String.holds_intercalate (List.mem_map.2 ⟨_, h, rfl⟩))
    · exact List.cons_ne_nil m members

theorem holds_renderAt_list (h : j ∈ items) (indent : Nat) :
    (renderAt indent (.list items)).Holds (renderAt (indent + 2) j) := by
  cases items with
  | nil => exact absurd h List.not_mem_nil
  | cons first items =>
    rw [renderAt, renderAll_eq, String.append_assoc]
    · exact (String.holds_middle ..).trans (String.holds_intercalate (List.mem_map_of_mem h))
    · exact List.cons_ne_nil first items

theorem holds_of_member? (h : whole.member? name = some j) (indent : Nat) :
    (renderAt indent whole).Holds (quote name ++ ": " ++ renderAt (indent + 2) j) := by
  cases whole with
  | object members =>
    obtain ⟨before, after, rfl, -⟩ := List.lookup_eq_some_iff.1 h
    exact holds_renderAt_object (List.mem_append_right before List.mem_cons_self) indent
  | _ => cases h

end Json

namespace Companion

/-! ## Names of connection strings -/

/-- Database servers, caches and brokers: what others reach by a connection string. -/
def isServed (r : Registry) (i : ResourceInstance) : Bool :=
  r.categoryOf? i = some .database || r.categoryOf? i = some .cache || r.categoryOf? i = some .messaging

/-- The name of the logical database of an instance if it has one, and else its own. -/
def connectionName (r : Registry) (i : ResourceInstance) : String :=
  (r.databaseOf? i).getD i.name

/-- The entry of the settings for an instance. -/
def connectionEntry (r : Registry) (i : ResourceInstance) : String × Json :=
  (connectionName r i, .text (placeholder (connectionName r i)))

theorem referenceVariable_eq (r : Registry) (i : ResourceInstance) :
    referenceVariable r i = variableName (connectionName r i) := rfl

theorem databaseOf?_standard (i : ResourceInstance) : Registry.standard.databaseOf? i =
    if Registry.standard.categoryOf? i = some .database then i.database.filter present else none := by
  have hpresent : (fun s => decide (s ≠ "")) = present := by
    funext s
    rw [present, bne, Bool.beq_eq_decide_eq, decide_not]
  simp only [Registry.databaseOf?, allowsDatabase_iff_category, hpresent]

theorem databaseOf?_eq_some_iff_of_type (htype : Registry.standard.find? i.resourceType = some type)
    {database : String} : Registry.standard.databaseOf? i = some database ↔
      type.category = .database ∧ i.database = some database ∧ database ≠ "" := by
  rw [databaseOf?_eq_some_iff, allowsDatabase_iff_category, Registry.categoryOf?_eq htype, Option.some.injEq]

/-- The key of an instance is the name that its variable is made from. -/
theorem connectionKey?_eq (hname : i.name ≠ "") : connectionKey? .standard i =
    if isServed .standard i then some (connectionName .standard i) else none := by
  rw [connectionKey?, if_neg hname, connectionName, databaseOf?_standard, isServed]
  -- caches and brokers have no databases, so that their own name is left
  cases Registry.standard.categoryOf? i with
  | none => rfl
  | some category => cases category <;> rfl

/-- Connection strings under different names are kept one after the other. -/
theorem connectionStrings_eq {instances : List ResourceInstance} (hnames : ∀ i ∈ instances, i.name ≠ "")
    (hnodup : ((instances.filter (isServed .standard)).map (connectionName .standard)).Nodup) :
    (connectionStrings .standard instances).map (fun (k, v) => (k, Json.text v)) =
      (instances.filter (isServed .standard)).map (connectionEntry .standard) := by
  have hkeys : instances.filterMap (connectionKey? .standard) =
      (instances.filter (isServed .standard)).map (connectionName .standard) := by
    rw [← filterMap_guard]
    exact List.filterMap_congr fun i hi => connectionKey?_eq (hnames i hi)
  let entries : List (String × String) :=
    ((instances.filter (isServed .standard)).map (connectionName .standard)).map fun k => (k, placeholder k)
  have hfst : (([] ++ entries).map Prod.fst).Nodup := by simpa [entries, Function.comp_def] using hnodup
  have hput := Entries.foldl_put hfst
  rw [List.foldl_map, List.nil_append] at hput
  rw [connectionStrings, hkeys, hput, List.map_map, List.map_map]
  rfl

theorem member?_settings {instances : List ResourceInstance} (hnames : ∀ i ∈ instances, i.name ≠ "")
    (hnodup : ((instances.filter (isServed .standard)).map (connectionName .standard)).Nodup) :
    (settings .standard instances).member? "ConnectionStrings" =
      some (.object ((instances.filter (isServed .standard)).map (connectionEntry .standard))) := by
  rw [← connectionStrings_eq hnames hnodup]
  rfl

end Companion

open Companion

/-! ## Declarations of what is served -/

theorem exists_type_of_isServed (h : isServed r i = true) : ∃ type, r.find? i.resourceType = some type := by
  cases hcategory : r.categoryOf? i with
  | none => simp [isServed, hcategory] at h
  | some category =>
    rcases Registry.exists_type_of_categoryOf? hcategory with ⟨type, htype, -⟩
    exact ⟨type, htype⟩

/-- The logical database of a server is added to the server, and what has none is added to the builder. -/
theorem exists_opening_of_declare? (h : declare? .standard t i = some d)
    (htype : Registry.standard.find? i.resourceType = some type) :
    ∃ s ∈ d.statements, s.opening.name = connectionName .standard i ∧
      ((∃ database, type.category = .database ∧ i.database = some database ∧ database ≠ "" ∧
          connectionName .standard i = database ∧
            s.opening.receiver = variableName i.name ∧ s.opening.method = "AddDatabase") ∨
        ((type.category = .database → ∀ database, i.database = some database → database = "") ∧
          connectionName .standard i = i.name ∧
            s.opening.receiver = "builder" ∧ s.opening.method = type.builder.name)) := by
  have hopenings := map_opening_of_declare? h htype
  rw [connectionName]
  cases hdatabase : Registry.standard.databaseOf? i with
  | none =>
    rw [hdatabase] at hopenings
    rcases List.map_eq_cons_iff.1 hopenings with ⟨s, rest, hs, hopening, -⟩
    refine ⟨s, hs ▸ List.mem_cons_self, ?_⟩
    rw [hopening]
    refine ⟨name_openingCall i _ _, Or.inr ⟨?_, rfl, receiver_openingCall i _ _, method_openingCall htype⟩⟩
    intro hserver database hsome
    by_contra hne
    have hlogical := (databaseOf?_eq_some_iff_of_type htype).2 ⟨hserver, hsome, hne⟩
    exact Option.some_ne_none database (hlogical.symm.trans hdatabase)
  | some database =>
    rw [hdatabase] at hopenings
    -- the statement after that of the server
    have hmem : OpeningCall.database (variableName i.name) database ∈ d.statements.map Statement.opening := by
      simp [hopenings]
    rcases List.mem_map.1 hmem with ⟨s, hs, hopening⟩
    rcases (databaseOf?_eq_some_iff_of_type htype).1 hdatabase with ⟨hserver, hsome, hne⟩
    refine ⟨s, hs, ?_⟩
    rw [hopening]
    exact ⟨rfl, Or.inl ⟨database, hserver, hsome, hne, rfl, rfl, rfl⟩⟩

namespace Faultless

/-- Instances that are served under one name would be referred to by one variable. -/
theorem nodup_connectionNames (h : Faultless r t) {instances : List ResourceInstance}
    (hperm : instances.Perm t.instances) :
    ((instances.filter (isServed r)).map (connectionName r)).Nodup := by
  -- one variable for both is what validation has ruled out
  refine List.Nodup.map_on ?_ ((hperm.nodup_iff.2 h.nodup_instances).filter _)
  intro i hi j hj hname
  rcases List.mem_filter.1 hi with ⟨hi, hiserved⟩
  rcases List.mem_filter.1 hj with ⟨hj, hjserved⟩
  rcases exists_type_of_isServed hiserved with ⟨itype, hitype⟩
  rcases exists_type_of_isServed hjserved with ⟨jtype, hjtype⟩
  refine h.referenceVariable_inj (hperm.mem_iff.1 hi) (hperm.mem_iff.1 hj)
    (Option.isSome_of_eq_some hitype) (Option.isSome_of_eq_some hjtype) ?_
  rw [referenceVariable_eq, referenceVariable_eq, hname]

end Faultless

/-! ## Settings -/

/-- Where ids differ and nothing is in the way, the connection strings are exactly one entry for each database
server, cache and broker, under names that differ. A database server with a logical database stands under the
name that `AddDatabase` is called with, and any other instance under the name that its builder is called with. -/
theorem settings_complete (hd : t.DistinctIds) (hok : t.compile .standard o = .ok a)
    (hblocked : a.isBlocked = false) :
    ∃ served : List ResourceInstance, served.Perm (t.instances.filter (isServed .standard)) ∧
      a.settings = (settings .standard t.sequence.ordered).render ∧
      (settings .standard t.sequence.ordered).member? "ConnectionStrings" =
        some (.object (served.map (connectionEntry .standard))) ∧
      (served.map (connectionName .standard)).Nodup ∧
      a.appHost = AppHost.render .standard t o t.sequence.ordered ∧
      ∀ i ∈ served, ∃ type d s, Registry.standard.find? i.resourceType = some type ∧
        declare? .standard t i = some d ∧ d ∈ t.sequence.ordered.filterMap (declare? .standard t) ∧
        s ∈ d.statements ∧ s.opening.name = connectionName .standard i ∧
        ((∃ database, type.category = .database ∧ i.database = some database ∧ database ≠ "" ∧
            connectionName .standard i = database ∧
              s.opening.receiver = variableName i.name ∧ s.opening.method = "AddDatabase") ∨
          ((type.category = .database → ∀ database, i.database = some database → database = "") ∧
            connectionName .standard i = i.name ∧
              s.opening.receiver = "builder" ∧ s.opening.method = type.builder.name)) := by
  rcases compile_unblocked_iff.1 ⟨hok, hblocked⟩ with ⟨h, -, rfl⟩
  have hperm := h.ordered_perm hd
  have hnodup := h.nodup_connectionNames hperm
  have hnames : ∀ i ∈ t.sequence.ordered, i.name ≠ "" := fun i hi => h.name_ne_empty (hperm.mem_iff.1 hi)
  refine ⟨t.sequence.ordered.filter (isServed .standard), hperm.filter _, rfl, member?_settings hnames hnodup, hnodup,
    rfl, fun i hi => ?_⟩
  rcases List.mem_filter.1 hi with ⟨hi, hserved⟩
  rcases exists_type_of_isServed hserved with ⟨type, htype⟩
  rcases Option.isSome_iff_exists.1 (h.isSome_declare? (hperm.mem_iff.1 hi) (Option.isSome_of_eq_some htype))
    with ⟨d, hdecl⟩
  rcases exists_opening_of_declare? hdecl htype with ⟨s, hs, hname, hopening⟩
  exact ⟨type, d, s, htype, hdecl, List.mem_filterMap.2 ⟨i, hi, hdecl⟩, hs, hname, hopening⟩

/-- What is served has a line of its own in the text of the settings. -/
theorem holds_connectionString (hd : t.DistinctIds) (hok : t.compile .standard o = .ok a)
    (hblocked : a.isBlocked = false) (hi : i ∈ t.instances) (hserved : isServed .standard i = true) :
    a.settings.Holds (Json.quote (connectionName .standard i) ++ ": " ++
      Json.quote (placeholder (connectionName .standard i))) := by
  obtain ⟨h, -, rfl⟩ := compile_unblocked_iff.1 ⟨hok, hblocked⟩
  have hperm := h.ordered_perm hd
  have hstrings := member?_settings (fun j hj => h.name_ne_empty (hperm.mem_iff.1 hj)) (h.nodup_connectionNames hperm)
  have hentry : connectionEntry .standard i ∈
      (t.sequence.ordered.filter (isServed .standard)).map (connectionEntry .standard) :=
    List.mem_map_of_mem (List.mem_filter.2 ⟨hperm.mem_iff.2 hi, hserved⟩)
  -- the object of all connection strings is a member itself
  have hobject := (Json.holds_of_member? hstrings 0).trans ⟨_, "", (String.append_empty).symm⟩
  exact hobject.trans (Json.holds_renderAt_object hentry 2)

/-- A database server with a database, one without, and a cache. -/
def depot : Topology where
  instances := [⟨"1", "postgres", "pg", some "orders", .empty⟩, ⟨"2", "sqlserver", "reports", some "", .empty⟩,
    ⟨"3", "redis", "cache", none, .empty⟩]
  connections := []

theorem depot_settings : ∃ a, depot.compile .standard .standard = .ok a ∧
    ∃ served : List ResourceInstance, served.length = 3 ∧
      (settings .standard depot.sequence.ordered).member? "ConnectionStrings" =
        some (.object (served.map (connectionEntry .standard))) := by
  have hd : depot.DistinctIds := by decide
  have hrules : PassesRules .standard depot := by decide
  have hwritable : Writable .standard .standard depot depot.sequence.ordered :=
    ⟨⟨"    ", by decide +kernel⟩, by decide +kernel⟩
  rcases compile_unblocked_iff.2 ⟨hrules.faultless acyclic_nil, hwritable, rfl⟩ with ⟨hok, hblocked⟩
  rcases settings_complete hd hok hblocked with ⟨served, hperm, -, hmember, -⟩
  refine ⟨_, hok, served, ?_, hmember⟩
  rw [hperm.length_eq]
  decide

example : (connectionStrings .standard depot.instances).map Prod.fst = ["orders", "reports", "cache"] := by
  decide

end HostTopology
