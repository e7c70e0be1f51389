import HostTopology.Proofs.Sketches
import Mathlib.Data.List.Nodup
import Mathlib.Tactic.SplitIfs

/-!
# Dependencies — what the services of a compose file need

The reader goes through the services, and in each through what it depends on. That is one pass over a list:

* `dependencies` — what the services of a file need, one after the other;
* `ofCompose_eq` — the sketch of a file as a fold over its dependencies;
* `drafts_ofCompose` — instances come from the services alone;
* `mem_links_ofCompose`, `warnings_ofCompose` — where names differ, the links and the warnings that come of the
  dependencies.
-/

namespace HostTopology

theorem Sketch.drafts_addLink (sketch : Sketch) (source target : Nat) :
    (sketch.addLink source target).drafts = sketch.drafts := by
  rw [addLink]
  split_ifs <;> rfl

theorem Sketch.mem_links_addLink {sketch : Sketch} {source target : Nat} {link : Nat × Nat} :
    link ∈ (sketch.addLink source target).links ↔ link ∈ sketch.links ∨ source ≠ target ∧ link = (source, target) := by
  rw [addLink]
  split
  · rename_i hold
    refine ⟨.inl, ?_⟩
    rintro (hlink | ⟨hne, rfl⟩)
    · exact hlink
    · exact hold.resolve_left hne
  · rename_i hnew
    rw [not_or] at hnew
    simp [hnew.1]

theorem Sketch.warnings_addLink (sketch : Sketch) (source target : Nat) :
    (sketch.addLink source target).warnings = sketch.warnings := by
  rw [addLink]
  split_ifs <;> rfl

theorem Sketch.links_warn (sketch : Sketch) (warning : String) : (sketch.warn warning).links = sketch.links :=
  rfl

theorem Sketch.drafts_warn (sketch : Sketch) (warning : String) : (sketch.warn warning).drafts = sketch.drafts :=
  rfl

namespace Compose

variable {r : Registry} {ss : List Service} {text : String} {l : Nat × Nat}

/-! ## Positions -/

theorem lt_of_position? {name : String} {n : Nat} (h : position? ss name = some n) : n < ss.length := by
  rcases Option.map_eq_some_iff.1 h with ⟨⟨s, m⟩, hfind, rfl⟩
  have hmem := List.mem_reverse.1 (List.mem_of_find?_eq_some hfind)
  exact List.snd_lt_of_mem_zipIdx hmem

/-- The names of services. -/
def names (ss : List Service) : List String :=
  ss.map Service.name

/-- Where names are different, a name stands for the only service that has it. -/
theorem position?_eq (hdistinct : (names ss).Nodup) (name : String) :
    position? ss name = if name ∈ names ss then some ((names ss).idxOf name) else none := by
  rw [position?]
  cases hfind : ss.zipIdx.reverse.find? fun p => p.1.name = name with
  | none =>
    have habsent : name ∉ names ss := by
      intro hname
      obtain ⟨s, hs, rfl⟩ := List.mem_map.1 hname
      obtain ⟨m, hm, rfl⟩ := List.mem_iff_getElem.1 hs
      have hother := List.find?_eq_none.1 hfind (ss[m], m) (by simp [List.mem_zipIdx_iff_getElem?])
      simp at hother
    rw [if_neg habsent]
    rfl
  | some p =>
    have hp := List.mem_zipIdx_iff_getElem?.1 (List.mem_reverse.1 (List.mem_of_find?_eq_some hfind))
    have hname : p.1.name = name := by simpa using List.find?_some hfind
    -- the last service with the name is the only one
    have hget : (names ss)[p.2]? = some name := by rw [names, List.getElem?_map, hp, Option.map_some, hname]
    obtain ⟨hlt, rfl⟩ := List.getElem?_eq_some_iff.1 hget
    rw [if_pos (List.getElem_mem hlt), hdistinct.idxOf_getElem p.2 hlt]
    rfl

/-! ## Dependencies -/

/-- A service, and the name of one that it needs. -/
structure Dependency where
  service : Service
  needed : String

namespace Dependency

variable (ss) (d : Dependency)

/-- Both names are names of services. -/
def IsKnown : Prop :=
  d.needed ∈ names ss ∧ d.service.name ∈ names ss

instance : Decidable (d.IsKnown ss) :=
  inferInstanceAs (Decidable (_ ∧ _))

/-- The link from what is needed to the service that needs it. -/
def link : Nat × Nat :=
  ((names ss).idxOf d.needed, (names ss).idxOf d.service.name)

variable {ss d} in
theorem link_apart_iff (h : d.IsKnown ss) : (d.link ss).1 ≠ (d.link ss).2 ↔ d.needed ≠ d.service.name :=
  not_congr (List.idxOf_inj h.1)

def warning : String :=
  "Service \"" ++ d.service.name ++ "\" depends on unknown service \"" ++ d.needed ++ "\""

end Dependency

/-- What services need, one dependency after the other. -/
def dependencies (ss : List Service) : List Dependency :=
  ss.flatMap fun s => s.dependsOn.map (Dependency.mk s)

theorem mem_dependencies {d : Dependency} :
    d ∈ dependencies ss ↔ d.service ∈ ss ∧ d.needed ∈ d.service.dependsOn := by
  rw [dependencies, List.mem_flatMap]
  constructor
  · rintro ⟨s, hs, hd⟩
    obtain ⟨name, hname, rfl⟩ := List.mem_map.1 hd
    exact ⟨hs, hname⟩
  · rintro ⟨hs, hname⟩
    exact ⟨d.service, hs, List.mem_map_of_mem hname⟩

/-- The sketch after some dependencies. -/
def addDependencies (ss : List Service) (sketch : Sketch) (ds : List Dependency) : Sketch :=
  ds.foldl (fun sketch d => addDependency ss d.service sketch d.needed) sketch

/-- The sketch of a file is made by the dependencies of its services in turn. -/
theorem ofCompose_eq (r : Registry) (text : String) : Sketch.ofCompose r text =
    let sketch := addDependencies (services text)
      ⟨(services text).map (Service.draft r), [], (services text).flatMap (Service.warnings r)⟩
      (dependencies (services text))
    if (services text).isEmpty then sketch.warn nothingFound else sketch := by
  rw [Sketch.ofCompose, addDependencies, dependencies, List.foldl_flatMap]
  simp only [List.foldl_map]

theorem drafts_addDependency (ss : List Service) (s : Service) (sketch : Sketch) (needed : String) :
    (addDependency ss s sketch needed).drafts = sketch.drafts := by
  rw [addDependency]
  split
  · exact Sketch.drafts_addLink _ _ _
  · rfl

theorem drafts_addDependencies (ss : List Service) (sketch : Sketch) (ds : List Dependency) :
    (addDependencies ss sketch ds).drafts = sketch.drafts :=
  List.foldlRecOn (motive := fun found : Sketch => found.drafts = sketch.drafts) ds _ rfl fun found hfound d _ =>
    (drafts_addDependency ss d.service found d.needed).trans hfound

/-- Dependencies make links and warnings only. -/
theorem drafts_ofCompose (r : Registry) (text : String) :
    (Sketch.ofCompose r text).drafts = (services text).map (Service.draft r) := by
  rw [ofCompose_eq]
  split
  · rw [Sketch.drafts_warn, drafts_addDependencies]
  · rw [drafts_addDependencies]

/-! ## Links and warnings -/

/-- A dependency that is known makes a link, and another one a warning. -/
theorem addDependency_eq (hdistinct : (names ss).Nodup) (d : Dependency) (sketch : Sketch) :
    addDependency ss d.service sketch d.needed =
      if d.IsKnown ss then sketch.addLink (d.link ss).1 (d.link ss).2 else sketch.warn d.warning := by
  rw [addDependency, position?_eq hdistinct, position?_eq hdistinct]
  by_cases hsource : d.needed ∈ names ss <;> by_cases htarget : d.service.name ∈ names ss <;>
    simp [Dependency.IsKnown, Dependency.link, Dependency.warning, hsource, htarget]

theorem mem_links_addDependencies (hdistinct : (names ss).Nodup) (ds : List Dependency) (sketch : Sketch) :
    l ∈ (addDependencies ss sketch ds).links ↔ l ∈ sketch.links ∨
      ∃ d ∈ ds, d.IsKnown ss ∧ (d.link ss).1 ≠ (d.link ss).2 ∧ l = d.link ss := by
  induction ds generalizing sketch with
  | nil => simp [addDependencies]
  | cons d ds ih =>
    -- the first dependency is looked at before the others, whose start it changes
    rw [addDependencies, List.foldl_cons, ← addDependencies, ih, addDependency_eq hdistinct, List.exists_mem_cons_iff,
      ← or_assoc]
    refine or_congr_left ?_
    split
    · rename_i hknown
      rw [Sketch.mem_links_addLink]
      simp [hknown]
    · rename_i hunknown
      simp [Sketch.warn, hunknown]

theorem warnings_addDependencies (hdistinct : (names ss).Nodup) (ds : List Dependency) (sketch : Sketch) :
    (addDependencies ss sketch ds).warnings =
      sketch.warnings ++ (ds.filter fun d => ¬ d.IsKnown ss).map Dependency.warning := by
  induction ds generalizing sketch with
  | nil => simp [addDependencies]
  | cons d ds ih =>
    rw [addDependencies, List.foldl_cons, ← addDependencies, ih, addDependency_eq hdistinct]
    split
    · rename_i hknown
      rw [Sketch.warnings_addLink, List.filter_cons_of_neg (by simpa using hknown)]
    · rename_i hunknown
      rw [List.filter_cons_of_pos (by simpa using hunknown), List.map_cons, Sketch.warn, List.append_assoc]
      rfl

theorem mem_links_ofCompose (hdistinct : (names (services text)).Nodup) (r : Registry) :
    l ∈ (Sketch.ofCompose r text).links ↔ ∃ d ∈ dependencies (services text),
      d.IsKnown (services text) ∧ d.needed ≠ d.service.name ∧ l = d.link (services text) := by
  have hlinks := mem_links_addDependencies (l := l) hdistinct (dependencies (services text))
    ⟨(services text).map (Service.draft r), [], (services text).flatMap (Service.warnings r)⟩
  rw [or_iff_right List.not_mem_nil] at hlinks
  have hlast : l ∈ (Sketch.ofCompose r text).links ↔ ∃ d ∈ dependencies (services text), d.IsKnown (services text) ∧
      (d.link (services text)).1 ≠ (d.link (services text)).2 ∧ l = d.link (services text) := by
    rw [ofCompose_eq]
    split
    · rw [Sketch.links_warn]
      exact hlinks
    · exact hlinks
  refine hlast.trans (exists_congr fun d => and_congr_right fun _ => and_congr_right fun hknown => ?_)
  rw [Dependency.link_apart_iff hknown]

/-- The warnings about single services come first, in their order. -/
theorem warnings_ofCompose (hdistinct : (names (services text)).Nodup) (r : Registry) :
    (Sketch.ofCompose r text).warnings = (services text).flatMap (Service.warnings r) ++
      ((dependencies (services text)).filter fun d => ¬ d.IsKnown (services text)).map Dependency.warning ++
        if (services text).isEmpty then [nothingFound] else [] := by
  rw [ofCompose_eq]
  split
  · rw [Sketch.warn, warnings_addDependencies hdistinct]
  · rw [warnings_addDependencies hdistinct, List.append_nil]

end Compose
end HostTopology
