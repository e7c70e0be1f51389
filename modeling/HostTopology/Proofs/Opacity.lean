import HostTopology.Artifacts
import HostTopology.Proofs.Notices
import Mathlib.SetTheory.Cardinal.Arithmetic

/-!
# Opacity — what is generated does not depend on ids

Ids say which connection belongs to which instances, and nothing of them reaches what is generated.
`compile_relabel` says it of every artifact at once: a topology under other ids, with any ids for its
connections, compiles to the same.

The new ids only have to keep apart the ids that are mentioned (`Topology.mentioned`), by an instance or
at an end of a connection. Such a renaming agrees with one that keeps all texts apart
(`exists_injective_agreeing`), and the equations of relabeled topologies are stated for these.
-/

namespace HostTopology

variable {r : Registry} {f g : String → String} {t u : Topology}

/-! ## Mentioned ids -/

/-- The ids of the instances and those at the ends of connections. -/
def Topology.mentioned (t : Topology) : List String :=
  t.ids ++ t.connections.flatMap fun c => [c.source, c.target]

/-- There are more texts than in a list, so the rest can be sent somewhere else. -/
theorem exists_injective_agreeing {l : List String} (hf : ∀ a ∈ l, ∀ b ∈ l, f a = f b → a = b) :
    ∃ g : String → String, Function.Injective g ∧ ∀ a ∈ l, g a = f a := by
  let onList : {a // a ∈ l} ↪ String :=
    ⟨fun a => f a, fun a b hab => Subtype.ext (hf a a.2 b b.2 hab)⟩
  have hfinite : Cardinal.mk {a // a ∈ l} < Cardinal.mk String :=
    (Cardinal.lt_aleph0_of_finite _).trans_le (Cardinal.aleph0_le_mk _)
  obtain ⟨g, hg⟩ := Cardinal.extend_function_of_lt onList hfinite ⟨Equiv.refl _⟩
  exact ⟨g, g.injective, fun a ha => hg ⟨a, ha⟩⟩

theorem Topology.relabel_congr (h : ∀ id ∈ t.mentioned, g id = f id) (edgeIds : Nat → String) :
    t.relabel g edgeIds = t.relabel f edgeIds := by
  have hinstances : t.instances.map (ResourceInstance.relabel g) =
      t.instances.map (ResourceInstance.relabel f) := by
    refine List.map_congr_left fun i hi => ?_
    rw [ResourceInstance.relabel, h i.id (List.mem_append_left _ (List.mem_map_of_mem hi))]
    rfl
  have hconnections : (t.connections.mapIdx fun n c => Connection.mk (edgeIds n) (g c.source) (g c.target) c.kind) =
      t.connections.mapIdx fun n c => ⟨edgeIds n, f c.source, f c.target, c.kind⟩ := by
    refine List.ext_getElem (by rw [List.length_mapIdx, List.length_mapIdx]) fun n hn _ => ?_
    rw [List.length_mapIdx] at hn
    have hends : ∀ id ∈ [t.connections[n].source, t.connections[n].target], g id = f id := fun id hid =>
      h id (List.mem_append_right _ (List.mem_flatMap.2 ⟨_, List.getElem_mem hn, hid⟩))
    rw [List.getElem_mapIdx, List.getElem_mapIdx, hends _ List.mem_cons_self,
      hends _ (List.mem_cons_of_mem _ List.mem_cons_self)]
  rw [relabel, relabel, hinstances, hconnections]

/-! ## Declarations -/

namespace Topology
namespace Relabels

variable (h : t.Relabels f u) (hf : Function.Injective f)
include h hf

theorem referenceChain_eq (id : String) :
    AppHost.referenceChain r u (f id) = AppHost.referenceChain r t id := by
  rw [AppHost.referenceChain, AppHost.referenceChain]
  refine flatMap_eq_of_follows (h.incoming_follow hf id) fun c c' hc => ?_
  rw [hc.source, h.find?_eq hf]
  cases t.find? c.source <;> rfl

theorem declare?_eq (i : ResourceInstance) :
    AppHost.declare? r u (i.relabel f) = AppHost.declare? r t i := by
  have hid : (i.relabel f).id = f i.id := rfl
  simp only [AppHost.declare?, hid, h.referenceChain_eq hf]
  rfl

theorem declarations_eq (ordered : List ResourceInstance) :
    (ordered.map (ResourceInstance.relabel f)).filterMap (AppHost.declare? r u) =
      ordered.filterMap (AppHost.declare? r t) := by
  rw [List.filterMap_map]
  exact List.filterMap_congr fun i _ => h.declare?_eq hf i

/-! ## Artifacts -/

omit h hf in
theorem resourceTypes_relabel (ordered : List ResourceInstance) :
    (ordered.map (ResourceInstance.relabel f)).map ResourceInstance.resourceType =
      ordered.map ResourceInstance.resourceType :=
  List.map_map

theorem render_eq (options : RenderOptions) (ordered : List ResourceInstance) :
    AppHost.render r u options (ordered.map (ResourceInstance.relabel f)) = AppHost.render r t options ordered := by
  rw [AppHost.render, AppHost.render, h.declarations_eq hf, resourceTypes_relabel]

omit h hf in
theorem settingsText_relabel (ordered : List ResourceInstance) :
    Companion.settingsText r (ordered.map (ResourceInstance.relabel f)) = Companion.settingsText r ordered := by
  have hkeys : (ordered.map (ResourceInstance.relabel f)).filterMap (Companion.connectionKey? r) =
      ordered.filterMap (Companion.connectionKey? r) := List.filterMap_map
  rw [Companion.settingsText, Companion.settings, Companion.connectionStrings, hkeys]
  rfl

omit h hf in
theorem buildFileText_relabel (ordered : List ResourceInstance) :
    Companion.buildFileText (ordered.map (ResourceInstance.relabel f)) = Companion.buildFileText ordered := by
  rw [Companion.buildFileText, List.any_map]
  rfl

omit h hf in
theorem apps_relabel {α : Type} {ordered : List ResourceInstance} {part : ResourceInstance → α}
    (hpart : ∀ i, part (i.relabel f) = part i) :
    ((ordered.map (ResourceInstance.relabel f)).filter (Companion.isApp r)).map part =
      (ordered.filter (Companion.isApp r)).map part := by
  rw [List.filter_map, List.map_map]
  exact List.map_congr_left fun i _ => hpart i

theorem ofOrdered_eq (options : RenderOptions) (ordered : List ResourceInstance) :
    Artifacts.ofOrdered r options u (ordered.map (ResourceInstance.relabel f)) =
      Artifacts.ofOrdered r options t ordered := by
  rw [Artifacts.ofOrdered, Artifacts.ofOrdered, h.render_eq hf, resourceTypes_relabel, settingsText_relabel,
    buildFileText_relabel, Companion.manifestText, apps_relabel fun _ => rfl]
  rfl

theorem indent?_eq (options : RenderOptions) (ordered : List ResourceInstance) :
    Artifacts.indent? r options u (ordered.map (ResourceInstance.relabel f)) =
      Artifacts.indent? r options t ordered := by
  rw [Artifacts.indent?, Artifacts.indent?, List.all_map]
  simp only [Function.comp_def, h.declare?_eq hf]

theorem numbers_eq (ordered : List ResourceInstance) :
    Artifacts.numbers r u (ordered.map (ResourceInstance.relabel f)) = Artifacts.numbers r t ordered := by
  rw [Artifacts.numbers, Artifacts.numbers, h.declarations_eq hf, Companion.manifestNumbers,
    apps_relabel fun _ => rfl]
  rfl

theorem compile_eq (r : Registry) (options : RenderOptions) : u.compile r options = t.compile r options := by
  have hnotices := congrArg (Except.mapError CompileError.numeral) (h.notices_validate (r := r) hf)
  rw [← Except.map_mapError, ← Except.map_mapError] at hnotices
  rw [compile, compile]
  -- of a report only the notices are looked at: whether there are errors, and what they say
  refine Except.bind_eq_of_map_eq hnotices fun v' v hsame => ?_
  have hvalid : v'.isValid = v.isValid := by
    rw [Validation.isValid_eq, Validation.isValid_eq, hsame]
  have hmessages : v'.blocking.map Validation.Finding.message = v.blocking.map Validation.Finding.message := by
    rw [Validation.messages_blocking, Validation.messages_blocking, hsame]
  rw [hvalid, hmessages, h.ordered_eq hf]
  simp only [h.indent?_eq hf, h.numbers_eq hf, h.ofOrdered_eq hf]

end Relabels
end Topology

/-- Ids are opaque: whatever they are, and whatever the ids of the connections, the same is generated or
the same error ends the compilation. Ids may be repeated, and connections may lead to ids of no instance. -/
theorem compile_relabel (r : Registry) (options : RenderOptions)
    (hf : ∀ a ∈ t.mentioned, ∀ b ∈ t.mentioned, f a = f b → a = b) (edgeIds : Nat → String) :
    (t.relabel f edgeIds).compile r options = t.compile r options := by
  -- `f` may send what is not mentioned anywhere, `g` keeps that apart, too
  obtain ⟨g, hg, hagree⟩ := exists_injective_agreeing hf
  rw [← Topology.relabel_congr hagree]
  exact (Topology.relabels_relabel g edgeIds t).compile_eq hg r options

/-- Two caches under one id, and a connection to an id of no instance. -/
def scattered : Topology where
  instances := [⟨"a", "redis", "x", none, .empty⟩, ⟨"a", "redis", "y", none, .empty⟩,
    ⟨"b", "dotnet-project", "api", none, .empty⟩]
  connections := [.make "" "a" "b" .reference, .make "" "b" "ghost" .waitFor]

/-- The mentioned ids change places, and all other texts go to one. -/
def rotate (id : String) : String :=
  if id = "a" then "b" else if id = "b" then "ghost" else "a"

theorem scattered_compile_relabel :
    (∀ a ∈ scattered.mentioned, ∀ b ∈ scattered.mentioned, rotate a = rotate b → a = b) ∧
    scattered.relabel rotate (fun _ => "e") ≠ scattered ∧
    (scattered.relabel rotate fun _ => "e").compile .standard .standard = scattered.compile .standard .standard := by
  have hrotate : ∀ a ∈ scattered.mentioned, ∀ b ∈ scattered.mentioned, rotate a = rotate b → a = b := by decide
  exact ⟨hrotate, by decide, compile_relabel .standard .standard hrotate fun _ => "e"⟩

end HostTopology
