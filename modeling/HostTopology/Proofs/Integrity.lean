import HostTopology.Proofs.Counts
import HostTopology.Proofs.Importing
import HostTopology.Proofs.Numbering

/-!
# Integrity — what holds of everything that is imported

Files can declare a variable twice, name two services alike and refer to anything. What is read from them
is sound nevertheless, as links are made between positions where instances stand:

* `Sketch.IsLinked` — links lead from one instance to another, and none stands twice;
* `isLinked_ofAppHost`, `isLinked_ofCompose` — every pass over a file keeps it so;
* `Topology.IsImport` — what becomes of it under numbered ids;
* `isImport_read` — every import of a file is like this.
-/

namespace HostTopology

/-! ## Links of sketches -/

/-- Links lead from an instance that is there to another one, and none stands twice. -/
structure Sketch.IsLinked (s : Sketch) : Prop where
  distinct : s.links.Nodup
  apart : ∀ l ∈ s.links, l.1 ≠ l.2
  within : ∀ l ∈ s.links, l.1 < s.drafts.length ∧ l.2 < s.drafts.length

namespace Sketch
namespace IsLinked

variable {s s' : Sketch}

theorem of_links_eq_nil (h : s.links = []) : s.IsLinked where
  distinct := h ▸ List.nodup_nil
  apart _ hl := absurd (h ▸ hl) List.not_mem_nil
  within _ hl := absurd (h ▸ hl) List.not_mem_nil

/-- Instances may change and be added. -/
theorem of_links_eq (h : s.IsLinked) (hlinks : s'.links = s.links) (hlength : s.drafts.length ≤ s'.drafts.length) :
    s'.IsLinked where
  distinct := hlinks ▸ h.distinct
  apart l hl := h.apart l (hlinks ▸ hl)
  within l hl :=
    have hends := h.within l (hlinks ▸ hl)
    ⟨hends.1.trans_le hlength, hends.2.trans_le hlength⟩

theorem modify (h : s.IsLinked) (position : Nat) (change : Draft → Draft) : (s.modify position change).IsLinked :=
  h.of_links_eq rfl (List.length_modify ..).ge

theorem warn (h : s.IsLinked) (warning : String) : (s.warn warning).IsLinked :=
  h.of_links_eq rfl le_rfl

theorem addLink (h : s.IsLinked) {source target : Nat} (hsource : source < s.drafts.length)
    (htarget : target < s.drafts.length) : (s.addLink source target).IsLinked := by
  rw [Sketch.addLink]
  split
  · exact h
  · rename_i hnew
    rw [not_or] at hnew
    refine ⟨h.distinct.append (List.nodup_singleton _) ?_, fun l hl => ?_, fun l hl => ?_⟩
    · rw [List.disjoint_singleton]
      exact hnew.2
    · rcases List.mem_append.1 hl with hl | hl
      · exact h.apart l hl
      · obtain rfl := List.mem_singleton.1 hl
        exact hnew.1
    · rcases List.mem_append.1 hl with hl | hl
      · exact h.within l hl
      · obtain rfl := List.mem_singleton.1 hl
        exact ⟨hsource, htarget⟩

end IsLinked
end Sketch

/-! ## AppHosts -/

namespace AppHost

open Text Scan

variable {r : Registry} {s s' : Reading} {positions : List (String × Nat)} {position : Nat} {statement : List Char}

namespace Reading

theorem isLinked_addResource (h : s.sketch.IsLinked) (call : ResourceCall) : (s.addResource r call).sketch.IsLinked := by
  rw [Reading.addResource]
  split
  · exact h.warn _
  · refine h.of_links_eq rfl ?_
    change s.sketch.drafts.length ≤ (s.sketch.drafts ++ [_]).length
    rw [List.length_append]
    exact Nat.le_add_right _ _

theorem isLinked_addDatabase (h : s.sketch.IsLinked) (call : DatabaseCall) : (s.addDatabase call).sketch.IsLinked := by
  rw [Reading.addDatabase]
  split
  · exact h
  · exact h.modify _ _

/-- References lead to variables, and these stand for instances that are there. -/
theorem isLinked_addReferences (h : s.sketch.IsLinked) (hanchored : s.IsAnchored positions)
    (hposition : position < s.sketch.drafts.length) : (s.addReferences position statement).sketch.IsLinked := by
  -- the instances stay where they are while links are added, so that positions are within for each of them
  have hlinked := List.foldlRecOn
    (motive := fun sketch : Sketch => sketch.IsLinked ∧ sketch.drafts = s.sketch.drafts)
    ((all referenceCall statement).filterMap fun name => s.positions.lookup name)
    (fun sketch source => sketch.addLink source position) ⟨h, rfl⟩ fun sketch hsketch source hsource => by
      rcases List.mem_filterMap.1 hsource with ⟨name, -, hname⟩
      rw [hanchored.positions_eq] at hname
      refine ⟨hsketch.1.addLink ?_ ?_, (Sketch.drafts_addLink _ _ _).trans hsketch.2⟩
      · exact hsketch.2 ▸ hanchored.lt_of_lookup hname
      · exact hsketch.2 ▸ hposition
  exact hlinked.1

theorem isLinked_apply (h : s.sketch.IsLinked) (hanchored : s.IsAnchored positions)
    (happly : s.apply statement = .ok s') : s'.sketch.IsLinked := by
  rcases apply_cases happly with rfl | ⟨position, draft, config, -, hdraft, -, rfl⟩
  · exact h
  · have hposition : position < s.sketch.drafts.length := (List.getElem?_eq_some_iff.1 hdraft).1
    exact (isLinked_addReferences h hanchored hposition).modify _ _

end Reading

/-- Nothing is linked by declarations. -/
theorem isLinked_declaredIn (r : Registry) (code : List Char) : (declaredIn r code).sketch.IsLinked := by
  have hresources := List.foldlRecOn (motive := fun s : Reading => s.sketch.IsLinked) (all declaration code)
    (Reading.addResource r) (b := .empty) (Sketch.IsLinked.of_links_eq_nil rfl) fun s hs call _ =>
      Reading.isLinked_addResource hs call
  exact List.foldlRecOn (motive := fun s : Reading => s.sketch.IsLinked) (all databaseDeclaration code)
    Reading.addDatabase hresources fun s hs call _ => Reading.isLinked_addDatabase hs call

theorem isLinked_ofAppHost {text : String} {sketch : Sketch} (h : Sketch.ofAppHost r text = .ok sketch) :
    sketch.IsLinked := by
  rcases Except.bind_eq_ok_iff.1 h with ⟨reading, hreading, hsketch⟩
  obtain rfl := Except.ok.inj hsketch
  let code := dropComments text.toList
  have hend : reading.IsAnchored (declaredIn r code).positions ∧ reading.sketch.IsLinked :=
    Except.of_foldlM (P := fun s : Reading => s.IsAnchored (declaredIn r code).positions ∧ s.sketch.IsLinked)
      (fun s f s' hs happly => ⟨hs.1.apply happly, Reading.isLinked_apply hs.2 hs.1 happly⟩)
      ⟨isAnchored_declaredIn r code, isLinked_declaredIn r code⟩ hreading
  split
  · exact hend.2.warn _
  · exact hend.2

end AppHost

/-! ## Compose files -/

namespace Compose

theorem isLinked_addDependency {services : List Service} {sketch : Sketch} (h : sketch.IsLinked)
    (hlength : sketch.drafts.length = services.length) (s : Service) (dependency : String) :
    (addDependency services s sketch dependency).IsLinked := by
  rw [addDependency]
  split
  · rename_i source target hsource htarget
    exact h.addLink (hlength ▸ lt_of_position? hsource) (hlength ▸ lt_of_position? htarget)
  · exact h.warn _

theorem isLinked_addDependencies {services : List Service} {sketch : Sketch} (h : sketch.IsLinked)
    (hlength : sketch.drafts.length = services.length) (ds : List Dependency) :
    (addDependencies services sketch ds).IsLinked := by
  -- the instances stay, so that every position is one of an instance all along
  have hlinked := List.foldlRecOn
    (motive := fun sketch : Sketch => sketch.IsLinked ∧ sketch.drafts.length = services.length)
    ds (fun sketch d => addDependency services d.service sketch d.needed) ⟨h, hlength⟩ fun sketch hsketch d _ =>
      ⟨isLinked_addDependency hsketch.1 hsketch.2 d.service d.needed,
        (congrArg List.length (drafts_addDependency services d.service sketch d.needed)).trans hsketch.2⟩
  exact hlinked.1

theorem isLinked_ofCompose (r : Registry) (text : String) : (Sketch.ofCompose r text).IsLinked := by
  have hlinked : (addDependencies (services text)
      ⟨(services text).map (Service.draft r), [], (services text).flatMap (Service.warnings r)⟩
      (dependencies (services text))).IsLinked :=
    isLinked_addDependencies (Sketch.IsLinked.of_links_eq_nil rfl) (List.length_map _) _
  rw [ofCompose_eq]
  split
  · exact hlinked.warn _
  · exact hlinked

end Compose

/-! ## Dockerfiles -/

namespace Dockerfile
namespace Build

variable {b : Build}

theorem nodup_addPort (h : b.ports.Nodup) (word : List Char) : (b.addPort word).ports.Nodup := by
  rw [addPort]
  split
  · rename_i hnew
    refine h.append (List.nodup_singleton _) ?_
    rw [List.disjoint_singleton]
    simpa using (Bool.and_eq_true_iff.1 hnew).2
  · exact h

theorem nodup_step (h : b.ports.Nodup) (instruction : List Char) : (b.step instruction).ports.Nodup := by
  simp only [step]
  split
  · exact h
  · split
    · exact List.foldlRecOn (motive := fun b : Build => b.ports.Nodup) _ _ h fun _ hb word _ => nodup_addPort hb word
    · split <;> exact h

theorem nodup_ofText (text : String) : (ofText text).ports.Nodup :=
  List.foldlRecOn (motive := fun b : Build => b.ports.Nodup) _ _ List.nodup_nil fun _ hb line _ => nodup_step hb line

end Build
end Dockerfile

/-! ## Imports -/

/-- The ends of the connections. -/
def Topology.ends (t : Topology) : List (String × String) :=
  t.connections.map fun c => (c.source, c.target)

theorem Format.isLinked_sketch {f : Format} {r : Registry} {fileName text : String} {s : Sketch}
    (h : f.sketch r fileName text = .ok s) : s.IsLinked := by
  cases f with
  | appHost => exact AppHost.isLinked_ofAppHost h
  | compose => exact Except.ok.inj h ▸ Compose.isLinked_ofCompose r text
  | dockerfile => exact Except.ok.inj h ▸ Sketch.IsLinked.of_links_eq_nil rfl

/-- The graph of an import: instances under numbers in order that are not reserved, and connections from
one of them to another, which are no two alike. -/
structure Topology.IsImport (reserved : List String) (t : Topology) : Prop where
  numbered : ∃ numbers : List Nat, t.ids = numbers.map importedId ∧ numbers.Pairwise (· < ·) ∧
    ∀ n ∈ numbers, 1000 ≤ n
  distinctIds : t.DistinctIds
  unreserved : ∀ id ∈ t.ids, id ∉ reserved
  closed : t.Closed
  apart : ∀ c ∈ t.connections, c.source ≠ c.target
  distinctEnds : t.ends.Nodup
  distinctConnections : (t.connections.map Connection.id).Nodup

/-- The ids of connections tell which instances they join. -/
theorem defaultId_importedId_inj {a b c d : Nat} (h : Connection.defaultId (importedId a) (importedId b) =
    Connection.defaultId (importedId c) (importedId d)) : a = c ∧ b = d := by
  have hdigits : ∀ n : Nat, '_' ∉ n.repr.toList := not_mem_repr (by decide)
  have htext := congrArg String.toList h
  simp only [Connection.defaultId, importedId, String.toList_append, List.append_assoc] at htext
  have hafter : a.repr.toList ++ '_' :: ("imported_".toList ++ b.repr.toList) =
      c.repr.toList ++ '_' :: ("imported_".toList ++ d.repr.toList) :=
    List.append_cancel_left (List.append_cancel_left htext)
  -- the first underscore stands behind the number of the source
  have hparts := congrArg (Text.cut '_') hafter
  rw [Text.cut_append_cons (hdigits a), Text.cut_append_cons (hdigits c), Prod.mk.injEq, Option.some.injEq] at hparts
  have htarget : b.repr = d.repr := String.toList_inj.1 (List.append_cancel_left hparts.2)
  exact ⟨repr_inj (String.toList_inj.1 hparts.1), repr_inj htarget⟩

theorem exists_freshNumber (reserved : List String) {count n : Nat} (h : n < count) :
    ∃ number, (freshNumbers reserved count)[n]? = some number ∧
      (freshIds reserved count).getD n "" = importedId number := by
  have hlength : n < (freshNumbers reserved count).length := by rwa [length_freshNumbers]
  refine ⟨(freshNumbers reserved count)[n], List.getElem?_eq_getElem hlength, ?_⟩
  rw [freshIds_eq, List.getD_eq_getElem _ _ (by rwa [List.length_map]), List.getElem_map]

theorem freshNumber_inj {reserved : List String} {count m n number : Nat}
    (hm : (freshNumbers reserved count)[m]? = some number) (hn : (freshNumbers reserved count)[n]? = some number) :
    m = n :=
  (List.getElem?_inj (List.getElem?_eq_some_iff.1 hm).1 (pairwise_freshNumbers reserved count).nodup).1
    (hm.trans hn.symm)

namespace Sketch

variable {s : Sketch} {reserved : List String}

theorem connection_id (ids : List String) (link : Nat × Nat) : (connection ids link).id =
    Connection.defaultId (connection ids link).source (connection ids link).target := by
  rw [connection, Connection.make, if_pos rfl]

/-- Different links have different ids. -/
theorem connection_id_inj {count : Nat} {l l' : Nat × Nat} (hl : l.1 < count ∧ l.2 < count)
    (hl' : l'.1 < count ∧ l'.2 < count)
    (h : (connection (freshIds reserved count) l).id = (connection (freshIds reserved count) l').id) : l = l' := by
  obtain ⟨a, ha, hsource⟩ := exists_freshNumber reserved hl.1
  obtain ⟨b, hb, htarget⟩ := exists_freshNumber reserved hl.2
  obtain ⟨c, hc, hsource'⟩ := exists_freshNumber reserved hl'.1
  obtain ⟨d, hd, htarget'⟩ := exists_freshNumber reserved hl'.2
  simp only [connection_id] at h
  simp only [connection, Connection.make, hsource, htarget, hsource', htarget'] at h
  obtain ⟨rfl, rfl⟩ := defaultId_importedId_inj h
  exact Prod.ext (freshNumber_inj ha hc) (freshNumber_inj hb hd)

theorem isImport_imported (h : s.IsLinked) (reserved : List String) : (s.imported reserved).topology.IsImport reserved := by
  have hids := s.ids_imported reserved
  have hconnections : (s.imported reserved).topology.connections =
      s.links.map (connection (freshIds reserved s.drafts.length)) := rfl
  have hdistinct : ((s.imported reserved).topology.connections.map Connection.id).Nodup := by
    rw [hconnections, List.map_map]
    exact h.distinct.map_on fun l hl l' hl' => connection_id_inj (h.within l hl) (h.within l' hl')
  have hmem : ∀ n < s.drafts.length,
      (freshIds reserved s.drafts.length).getD n "" ∈ (s.imported reserved).topology.ids := by
    intro n hn
    rw [hids, List.getD_eq_getElem _ _ (by rwa [length_freshIds])]
    exact List.getElem_mem _
  refine ⟨⟨freshNumbers reserved s.drafts.length, by rw [hids, freshIds_eq], pairwise_freshNumbers _ _,
    fun n hn => (of_mem_freshNumbers hn).1⟩, s.distinctIds_imported reserved, fun id hid => ?_, fun c hc => ?_,
    fun c hc hloop => ?_, ?_, hdistinct⟩
  · exact notMem_reserved_of_mem_freshIds (hids ▸ hid)
  · rcases List.mem_map.1 hc with ⟨l, hl, rfl⟩
    exact ⟨hmem l.1 (h.within l hl).1, hmem l.2 (h.within l hl).2⟩
  · rcases List.mem_map.1 hc with ⟨l, hl, rfl⟩
    obtain ⟨a, ha, hsource⟩ := exists_freshNumber reserved (h.within l hl).1
    obtain ⟨b, hb, htarget⟩ := exists_freshNumber reserved (h.within l hl).2
    have hsame : importedId a = importedId b := hsource.symm.trans (hloop.trans htarget)
    obtain rfl := importedId_inj hsame
    exact h.apart l hl (freshNumber_inj ha hb)
  · -- ends that are alike would give ids that are alike
    refine List.Nodup.of_map (fun e => Connection.defaultId e.1 e.2) ?_
    have hdefault : (s.imported reserved).topology.ends.map (fun e => Connection.defaultId e.1 e.2) =
        (s.imported reserved).topology.connections.map Connection.id := by
      rw [Topology.ends, hconnections, List.map_map, List.map_map, List.map_map]
      exact List.map_congr_left fun l _ => (connection_id _ l).symm
    rwa [hdefault]

end Sketch

theorem isImport_read {f : Format} {r : Registry} {reserved : List String} {fileName text : String} {found : Imported}
    (h : f.read r reserved fileName text = .ok found) : found.topology.IsImport reserved := by
  obtain ⟨s, hs, rfl⟩ := Format.read_eq_ok_iff.1 h
  exact Sketch.isImport_imported (Format.isLinked_sketch hs) reserved

/-- Imports are sound, and a Dockerfile gives one container whose ports are different. -/
theorem read_sound {f : Format} {r : Registry} {reserved : List String} {fileName text : String} {found : Imported}
    (h : f.read r reserved fileName text = .ok found) :
    found.topology.IsImport reserved ∧
    (f = .dockerfile → ∃ i, found.topology.instances = [i] ∧ i.resourceType = "container" ∧
      (i.config.ports.map PortMapping.container).Nodup) := by
  refine ⟨isImport_read h, ?_⟩
  rintro rfl
  obtain ⟨s, hs, rfl⟩ := Format.read_eq_ok_iff.1 h
  obtain rfl := Except.ok.inj hs
  obtain ⟨id, hids⟩ := List.length_eq_one_iff.1 (length_freshIds reserved 1)
  let b := Dockerfile.Build.ofText text
  have hinstances : ((Sketch.ofDockerfile fileName text).imported reserved).topology.instances =
      [(b.draft fileName).withId id] := by
    change [b.draft fileName].zipWith Draft.withId (freshIds reserved 1) = _
    rw [hids]
    rfl
  refine ⟨_, hinstances, rfl, ?_⟩
  change ((b.ports.map fun port => PortMapping.mk port (some port)).map PortMapping.container).Nodup
  rw [List.map_map]
  exact (List.map_id _).symm ▸ Dockerfile.Build.nodup_ofText text

/-- A variable that is declared twice, and a resource that refers to it twice and to itself. -/
def redeclared : String :=
  "var db = builder.AddPostgres(\"db\");\nvar db = builder.AddRedis(\"cache\");\n" ++
  "var api = builder.AddNodeApp(\"api\").WithReference(db).WithReference(db).WithReference(api);"

def redeclaredTopology : Topology where
  instances := [⟨"imported_1000", "postgres", "db", none, { ResourceConfig.empty with persistent := some false }⟩,
    ⟨"imported_1002", "redis", "cache", none, .empty⟩, ⟨"imported_1003", "node-app", "api", none, .empty⟩]
  connections := [.make "" "imported_1002" "imported_1003" .reference]

theorem redeclared_sound :
    Format.appHost.read .standard ["imported_1001"] "" redeclared = .ok ⟨redeclaredTopology, []⟩ ∧
    redeclaredTopology.IsImport ["imported_1001"] := by
  have hread : Format.appHost.read .standard ["imported_1001"] "" redeclared = .ok ⟨redeclaredTopology, []⟩ :=
    (Format.read_eq_map ..).trans (by decide +kernel)
  exact ⟨hread, (read_sound hread).1⟩

end HostTopology
