import HostTopology.Proofs.Blocks
import HostTopology.Proofs.Integrity

/-!
# Rearranging — services in any order

A compose file gives the same topology in whatever order its services stand, where their names differ.

* `Describes` — what is read from services, where each has an id of its own;
* `Describes.ends_perm`, `Describes.warnings_perm` — what is read from the same services in another order;
* `IsReading`, `Rearranges` — what an import has of the services of a file, and one import in the order of another;
* `read_permute` — other orders of the services give imports in these orders.
-/

namespace HostTopology
namespace Compose

variable {r : Registry} {ss ss' : List Service} {text : String}

/-! ## What is read -/

/-- What is read from services: an instance for each of them, in their order and under an id of its own, and
connections from what is needed to what needs it. -/
structure Describes (r : Registry) (ss : List Service) (idOf : String → String) (found : Imported) : Prop where
  distinct : ((names ss).map idOf).Nodup
  instances : found.topology.instances = ss.map fun s => (s.draft r).withId (idOf s.name)
  mem_ends : ∀ e, e ∈ found.topology.ends ↔ ∃ d ∈ dependencies ss,
    d.IsKnown ss ∧ d.needed ≠ d.service.name ∧ e = (idOf d.needed, idOf d.service.name)
  distinctEnds : found.topology.ends.Nodup
  connections : found.topology.connections = found.topology.ends.map fun e => .make "" e.1 e.2 .reference
  warnings : found.warnings = ss.flatMap (Service.warnings r) ++
    ((dependencies ss).filter fun d => ¬ d.IsKnown ss).map Dependency.warning ++
      if ss.isEmpty then [nothingFound] else []

/-- The id of the instance that a name stands for. -/
def givenId (ss : List Service) (reserved : List String) : String → String :=
  counterpart (names ss) (freshIds reserved ss.length)

theorem map_givenId (hdistinct : (names ss).Nodup) (reserved : List String) :
    (names ss).map (givenId ss reserved) = freshIds reserved ss.length :=
  map_counterpart hdistinct (by rw [length_freshIds, names, List.length_map])

/-- A sketch of services that has their links and warnings describes them once it has ids. -/
theorem describes_of_sketch {s : Sketch} (hdistinct : (names ss).Nodup) (hlinked : s.IsLinked)
    (hdrafts : s.drafts = ss.map (Service.draft r))
    (hlinks : ∀ l, l ∈ s.links ↔ ∃ d ∈ dependencies ss, d.IsKnown ss ∧ d.needed ≠ d.service.name ∧ l = d.link ss)
    (hwarnings : s.warnings = ss.flatMap (Service.warnings r) ++
      ((dependencies ss).filter fun d => ¬ d.IsKnown ss).map Dependency.warning ++
        if ss.isEmpty then [nothingFound] else [])
    (reserved : List String) : Describes r ss (givenId ss reserved) (s.imported reserved) := by
  have hids := map_givenId hdistinct reserved
  have hlength : s.drafts.length = ss.length := by rw [hdrafts, List.length_map]
  have hends : (s.imported reserved).topology.ends = s.links.map fun l =>
      ((freshIds reserved ss.length).getD l.1 "", (freshIds reserved ss.length).getD l.2 "") := by
    rw [← hlength]
    exact List.map_map
  refine ⟨hids ▸ nodup_freshIds reserved _, ?_, fun e => ?_, (Sketch.isImport_imported hlinked reserved).distinctEnds,
    ?_, hwarnings⟩
  · change s.drafts.zipWith Draft.withId (freshIds reserved s.drafts.length) = _
    rw [hlength, ← hids, hdrafts, names, List.map_map, List.zipWith_map, List.zipWith_self]
    rfl
  · -- a link of two positions joins the ids at these positions
    rw [hends, List.mem_map]
    constructor
    · rintro ⟨l, hl, rfl⟩
      obtain ⟨d, hd, hknown, hapart, rfl⟩ := (hlinks l).1 hl
      exact ⟨d, hd, hknown, hapart, rfl⟩
    · rintro ⟨d, hd, hknown, hapart, rfl⟩
      exact ⟨_, (hlinks _).2 ⟨d, hd, hknown, hapart, rfl⟩, rfl⟩
  · rw [hends, List.map_map, ← hlength]
    rfl

/-! ## Services in another order -/

theorem isKnown_congr (h : ss'.Perm ss) (d : Dependency) : d.IsKnown ss' ↔ d.IsKnown ss :=
  and_congr (h.map Service.name).mem_iff (h.map Service.name).mem_iff

namespace Describes

variable {idOf idOf' : String → String} {found found' : Imported}

theorem ids_eq (h : Describes r ss idOf found) : found.topology.ids = (names ss).map idOf := by
  rw [Topology.ids, h.instances, names, List.map_map, List.map_map]
  rfl

theorem warnings_perm (h : Describes r ss idOf found) (h' : Describes r ss' idOf' found') (hss : ss'.Perm ss) :
    found'.warnings.Perm found.warnings := by
  rw [h.warnings, h'.warnings, hss.isEmpty_eq]
  have hunknown : ((dependencies ss').filter fun d => ¬ d.IsKnown ss') =
      (dependencies ss').filter fun d => ¬ d.IsKnown ss :=
    List.filter_congr fun d _ => decide_eq_decide.2 (not_congr (isKnown_congr hss d))
  rw [hunknown]
  exact ((hss.flatMap_right _).append (((hss.flatMap_right _).filter _).map _)).append_right _

/-- The ids of one import that go to those of another, each to the one of the same name. -/
theorem exists_rename (h : Describes r ss idOf found) (h' : Describes r ss' idOf' found') (hss : ss'.Perm ss) :
    ∃ rename : String → String, Set.BijOn rename {id | id ∈ found.topology.ids} {id | id ∈ found'.topology.ids} ∧
      ∀ name ∈ names ss, rename (idOf name) = idOf' name := by
  have hids : ((names ss').map idOf').Perm ((names ss).map idOf') := (hss.map Service.name).map idOf'
  have hrename := keepsOrder_counterpart h.distinct (hids.nodup_iff.1 h'.distinct)
    (by rw [List.length_map, List.length_map])
  have htarget : {id | id ∈ found'.topology.ids} = {id | id ∈ (names ss).map idOf'} := by
    rw [h'.ids_eq]
    exact Set.ext fun id => hids.mem_iff
  refine ⟨counterpart ((names ss).map idOf) ((names ss).map idOf'), ?_, ?_⟩
  · rw [h.ids_eq, htarget]
    exact hrename.bijective
  · have hmap := hrename.map_eq
    rw [List.map_map] at hmap
    exact List.map_inj_left.1 hmap

/-- The same services are joined. -/
theorem ends_perm (h : Describes r ss idOf found) (h' : Describes r ss' idOf' found') (hss : ss'.Perm ss)
    {rename : String → String} (hrename : ∀ name ∈ names ss, rename (idOf name) = idOf' name) :
    found'.topology.ends.Perm (found.topology.ends.map (Prod.map rename rename)) := by
  have hinjective : ∀ a ∈ names ss, ∀ b ∈ names ss, idOf' a = idOf' b → a = b := fun a ha b hb =>
    List.inj_on_of_nodup_map h'.distinct ((hss.map Service.name).mem_iff.2 ha) ((hss.map Service.name).mem_iff.2 hb)
  have hrenamed : ∀ d : Dependency, d.IsKnown ss → Prod.map rename rename (idOf d.needed, idOf d.service.name) =
      (idOf' d.needed, idOf' d.service.name) := fun d hknown =>
    Prod.ext (hrename _ hknown.1) (hrename _ hknown.2)
  have hdistinct : (found.topology.ends.map (Prod.map rename rename)).Nodup := by
    refine h.distinctEnds.map_on fun e he e' he' hsame => ?_
    obtain ⟨d, -, hknown, -, rfl⟩ := (h.mem_ends e).1 he
    obtain ⟨d', -, hknown', -, rfl⟩ := (h.mem_ends e').1 he'
    rw [hrenamed d hknown, hrenamed d' hknown', Prod.mk.injEq] at hsame
    rw [hinjective _ hknown.1 _ hknown'.1 hsame.1, hinjective _ hknown.2 _ hknown'.2 hsame.2]
  -- neither list has a pair twice, so that it is enough to compare their members
  refine (List.perm_ext_iff_of_nodup h'.distinctEnds hdistinct).2 fun e => ?_
  rw [h'.mem_ends, List.mem_map]
  constructor
  · rintro ⟨d, hd, hknown, hapart, rfl⟩
    have hknown := (isKnown_congr hss d).1 hknown
    exact ⟨_, (h.mem_ends _).2 ⟨d, (hss.flatMap_right _).mem_iff.1 hd, hknown, hapart, rfl⟩, hrenamed d hknown⟩
  · rintro ⟨e, he, rfl⟩
    obtain ⟨d, hd, hknown, hapart, rfl⟩ := (h.mem_ends e).1 he
    exact ⟨d, (hss.flatMap_right _).mem_iff.2 hd, (isKnown_congr hss d).2 hknown, hapart, hrenamed d hknown⟩

theorem connections_perm (h : Describes r ss idOf found) (h' : Describes r ss' idOf' found') (hss : ss'.Perm ss)
    {rename : String → String} (hrename : ∀ name ∈ names ss, rename (idOf name) = idOf' name) :
    found'.topology.connections.Perm (found.topology.renumber rename).connections := by
  have hconnections : (found.topology.renumber rename).connections =
      (found.topology.ends.map (Prod.map rename rename)).map fun e => .make "" e.1 e.2 .reference := by
    rw [Topology.renumber, h.connections, List.map_map, List.map_map]
    rfl
  rw [h'.connections, hconnections]
  exact (h.ends_perm h' hss hrename).map _

end Describes

/-! ## Files in another order -/

/-- What is read from a file: every service gives one instance, which its own lines describe, and is connected
with the services that it depends on, wherever these stand. -/
structure IsReading (r : Registry) (ws : List Written) (found : Imported) : Prop where
  length : found.topology.instances.length = ws.length
  own : ∀ p ∈ ws.zip found.topology.instances, p.2 = (p.1.service.draft r).withId p.2.id
  joins : ∀ p ∈ ws.zip found.topology.instances, ∀ q ∈ ws.zip found.topology.instances,
    (p.2.id, q.2.id) ∈ found.topology.ends ↔ p.1.name ∈ q.1.service.dependsOn ∧ p.1.name ≠ q.1.name

/-- One import in the order of another. Under other ids, every service has the same instance, the same
instances are connected, and the warnings are the same. -/
structure Rearranges (rename : String → String) (ws ws' : List Written) (found found' : Imported) : Prop where
  bijective : Set.BijOn rename {id | id ∈ found.topology.ids} {id | id ∈ found'.topology.ids}
  instances : (ws'.zip found'.topology.instances).Perm (ws.zip (found.topology.renumber rename).instances)
  connections : found'.topology.connections.Perm (found.topology.renumber rename).connections
  warnings : found'.warnings.Perm found.warnings

section Files

variable {ws ws' : List Written} {text' : String} {idOf idOf' : String → String} {found found' : Imported}

theorem names_written (ws : List Written) : names (ws.map Written.service) = ws.map Written.name := by
  rw [names, List.map_map]
  exact List.map_congr_left fun w _ => w.name_service

theorem instances_eq (h : Describes r (ws.map Written.service) idOf found) :
    found.topology.instances = ws.map fun w => (w.service.draft r).withId (idOf w.name) := by
  rw [h.instances, List.map_map]
  exact List.map_congr_left fun w _ => congrArg (fun name => (w.service.draft r).withId (idOf name)) w.name_service

theorem zip_instances (h : Describes r (ws.map Written.service) idOf found) :
    ws.zip found.topology.instances = ws.map fun w => (w, (w.service.draft r).withId (idOf w.name)) := by
  rw [instances_eq h, ← List.map_prod_left_eq_zip]

theorem mem_ends_iff (h : Describes r (ws.map Written.service) idOf found) {w v : Written} (hw : w ∈ ws) (hv : v ∈ ws) :
    (idOf w.name, idOf v.name) ∈ found.topology.ends ↔ w.name ∈ v.service.dependsOn ∧ w.name ≠ v.name := by
  have hdistinct : ((ws.map Written.name).map idOf).Nodup := names_written ws ▸ h.distinct
  have hinjective := List.inj_on_of_nodup_map hdistinct
  have hwname := List.mem_map_of_mem (f := Written.name) hw
  have hvname := List.mem_map_of_mem (f := Written.name) hv
  refine (h.mem_ends _).trans ⟨?_, fun ⟨hneeded, hapart⟩ => ?_⟩
  · rintro ⟨d, hd, hknown, hapart, hends⟩
    obtain ⟨hservice, hneeded⟩ := mem_dependencies.1 hd
    obtain ⟨hsource, htarget⟩ := Prod.mk.inj hends
    rw [Dependency.IsKnown, names_written] at hknown
    have hsource : w.name = d.needed := hinjective hwname hknown.1 hsource
    have htarget : v.name = d.service.name := hinjective hvname hknown.2 htarget
    -- no other service has the name
    obtain ⟨u, hu, hus⟩ := List.mem_map.1 hservice
    have hname : u.name = v.name := by rw [htarget, ← hus, u.name_service]
    obtain rfl := List.inj_on_of_nodup_map hdistinct.of_map hu hv hname
    rw [hus, hsource, htarget]
    exact ⟨hneeded, hapart⟩
  · have hservice : v.service ∈ ws.map Written.service := List.mem_map_of_mem hv
    refine ⟨⟨v.service, w.name⟩, mem_dependencies.2 ⟨hservice, hneeded⟩, ?_, ?_, ?_⟩
    · rw [Dependency.IsKnown, names_written, v.name_service]
      exact ⟨hwname, hvname⟩
    · rwa [v.name_service]
    · rw [v.name_service]

theorem isReading_of_describes (h : Describes r (ws.map Written.service) idOf found) : IsReading r ws found where
  length := by rw [instances_eq h, List.length_map]
  own p hp := by
    rw [zip_instances h] at hp
    obtain ⟨w, -, rfl⟩ := List.mem_map.1 hp
    rfl
  joins p hp q hq := by
    rw [zip_instances h] at hp hq
    obtain ⟨w, hw, rfl⟩ := List.mem_map.1 hp
    obtain ⟨v, hv, rfl⟩ := List.mem_map.1 hq
    exact mem_ends_iff h hw hv

theorem exists_describes (htext : IsServiceFile text ws) (hdistinct : (ws.map Written.name).Nodup) (r : Registry)
    (reserved : List String) (fileName : String) : ∃ found idOf,
      Format.compose.read r reserved fileName text = .ok found ∧ Describes r (ws.map Written.service) idOf found := by
  rw [← services_eq htext]
  rw [← names_written, ← services_eq htext] at hdistinct
  exact ⟨_, _, Format.read_eq rfl, describes_of_sketch hdistinct (isLinked_ofCompose r text) (drafts_ofCompose r text)
    (fun _ => mem_links_ofCompose hdistinct r) (warnings_ofCompose hdistinct r) reserved⟩

/-- The order of the services does not matter. Where their names differ, a file with the same services in another
order gives the same instances in that order, the same connections between them and the same warnings. -/
theorem read_permute (htext : IsServiceFile text ws) (htext' : IsServiceFile text' ws') (hws : ws'.Perm ws)
    (hdistinct : (ws.map Written.name).Nodup) (r : Registry) (reserved reserved' : List String)
    (fileName fileName' : String) : ∃ found found',
      Format.compose.read r reserved fileName text = .ok found ∧
      Format.compose.read r reserved' fileName' text' = .ok found' ∧
      IsReading r ws found ∧ IsReading r ws' found' ∧ ∃ rename, Rearranges rename ws ws' found found' := by
  obtain ⟨found, idOf, hread, h⟩ := exists_describes htext hdistinct r reserved fileName
  obtain ⟨found', idOf', hread', h'⟩ :=
    exists_describes htext' ((hws.map Written.name).nodup_iff.2 hdistinct) r reserved' fileName'
  have hss := hws.map Written.service
  obtain ⟨rename, hbijective, hrename⟩ := h.exists_rename h' hss
  refine ⟨found, found', hread, hread', isReading_of_describes h, isReading_of_describes h', rename, hbijective, ?_,
    h.connections_perm h' hss hrename, h.warnings_perm h' hss⟩
  have hinstances : (found.topology.renumber rename).instances =
      ws.map fun w => (w.service.draft r).withId (idOf' w.name) := by
    rw [Topology.renumber, instances_eq h, List.map_map]
    refine List.map_congr_left fun w hw => congrArg (w.service.draft r).withId (hrename w.name ?_)
    rw [names_written]
    exact List.mem_map_of_mem hw
  rw [zip_instances h', hinstances, ← List.map_prod_left_eq_zip]
  exact hws.map _

end Files

/-- A service that needs another one, and one that is not there. -/
def webWritten : Written where
  name := "my-web"
  head := "  my-web:".toList
  rest := ["# page".toList, "    depends_on:".toList, "    - db".toList, "    - mail".toList, []]
  names := by decide
  body := by decide

def dbWritten : Written where
  name := "db"
  head := "\tdb :".toList
  rest := ["    image: redis".toList]
  names := by decide
  body := by decide

/-- Two services, in both orders. -/
def webFirst : String :=
  "\nservices:\n  my-web:\n# page\n    depends_on:\n    - db\n    - mail\n\n\tdb :\n    image: redis"

def dbFirst : String :=
  "services: \n\tdb :\n    image: redis\n  my-web:\n# page\n    depends_on:\n    - db\n    - mail\n\n"

def webInstance (id : String) : ResourceInstance :=
  ⟨id, "container", "my_web", none, .empty⟩

def dbInstance (id : String) : ResourceInstance :=
  ⟨id, "redis", "db", none, .empty⟩

def webWarnings : List String :=
  ["Could not map service \"my-web\" to an Aspire resource; using a generic container",
    "Service \"my-web\" renamed to \"my_web\"", "Service \"my-web\" depends on unknown service \"mail\""]

def webFirstFound : Imported where
  topology := ⟨[webInstance "imported_1000", dbInstance "imported_1001"],
    [.make "" "imported_1001" "imported_1000" .reference]⟩
  warnings := webWarnings

def dbFirstFound : Imported where
  topology := ⟨[dbInstance "imported_1001", webInstance "imported_1002"],
    [.make "" "imported_1001" "imported_1002" .reference]⟩
  warnings := webWarnings

/-- The database is joined to the service that needs it, also where it comes after it; what is not there is noted. -/
theorem webFirst_permute :
    IsServiceFile webFirst [webWritten, dbWritten] ∧ IsServiceFile dbFirst [dbWritten, webWritten] ∧
    Format.compose.read .standard [] "" webFirst = .ok webFirstFound ∧
    Format.compose.read .standard ["imported_1000"] "" dbFirst = .ok dbFirstFound ∧
    IsReading .standard [webWritten, dbWritten] webFirstFound ∧
    IsReading .standard [dbWritten, webWritten] dbFirstFound ∧
    ∃ rename, Rearranges rename [webWritten, dbWritten] [dbWritten, webWritten] webFirstFound dbFirstFound := by
  have hweb : IsServiceFile webFirst [webWritten, dbWritten] := ⟨[[], "services:".toList], by decide +kernel⟩
  have hdb : IsServiceFile dbFirst [dbWritten, webWritten] := ⟨["services: ".toList], by decide +kernel⟩
  have hread : Format.compose.read .standard [] "" webFirst = .ok webFirstFound :=
    (Format.read_eq_map ..).trans (by decide +kernel)
  have hread' : Format.compose.read .standard ["imported_1000"] "" dbFirst = .ok dbFirstFound :=
    (Format.read_eq_map ..).trans (by decide +kernel)
  obtain ⟨found, found', hfound, hfound', h⟩ :=
    read_permute hweb hdb (.swap _ _ _) (by decide) .standard [] ["imported_1000"] "" ""
  obtain rfl := Except.ok.inj (hfound.symm.trans hread)
  obtain rfl := Except.ok.inj (hfound'.symm.trans hread')
  exact ⟨hweb, hdb, hread, hread', h⟩

end Compose
end HostTopology
