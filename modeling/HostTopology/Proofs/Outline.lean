import HostTopology.Proofs.Dependencies
import HostTopology.Proofs.Fragments

/-!
# Outline — the names and links that are read, whatever else is

A fragment can begin with the name of any instance, and its calls change the configuration of that
instance. They do not change its name, and links come from references only. So this file follows what is
read without the configurations:

* `Reading.Outlines` — the names of the instances, their links in any order, and the variables;
* `Outlines.apply_owned` — a fragment of an instance, with the links of its references;
* `Outlines.foldlM_unlinked` — fragments without references, or about no instance.
-/

namespace HostTopology
namespace AppHost

open Text Scan

variable {r : Reading} {names : List String} {links : List (Nat × Nat)} {positions : List (String × Nat)}
  {sources : List Nat} {position : Nat} {f : List Char}

/-- What has been read, by names and links, whatever the configurations and the order of the links. -/
structure Reading.Outlines (r : Reading) (names : List String) (links : List (Nat × Nat))
    (positions : List (String × Nat)) : Prop where
  names_eq : r.sketch.drafts.map Draft.name = names
  mem_links : ∀ e, e ∈ r.sketch.links ↔ e ∈ links
  positions_eq : r.positions = positions

namespace Reading

theorem IsAt.outlines {drafts : List Draft} (h : r.IsAt drafts links positions) :
    r.Outlines (drafts.map Draft.name) links positions where
  names_eq := by rw [h.drafts_eq]
  mem_links _ := by rw [h.links_eq]
  positions_eq := h.positions_eq

theorem drafts_foldl_addLink (sketch : Sketch) (target : Nat) (sources : List Nat) :
    (sources.foldl (fun sketch source => sketch.addLink source target) sketch).drafts = sketch.drafts := by
  induction sources generalizing sketch with
  | nil => rfl
  | cons source sources ih =>
    rw [List.foldl_cons, ih, Sketch.drafts_addLink]

theorem mem_links_foldl_addLink {sketch : Sketch} {target : Nat} (hself : target ∉ sources) (e : Nat × Nat) :
    e ∈ (sources.foldl (fun sketch source => sketch.addLink source target) sketch).links ↔
      e ∈ sketch.links ∨ e ∈ sources.map fun source => (source, target) := by
  induction sources generalizing sketch with
  | nil => simp
  | cons source sources ih =>
    rw [List.mem_cons, not_or] at hself
    rw [List.foldl_cons, ih hself.2, Sketch.mem_links_addLink, and_iff_right (Ne.symm hself.1), List.map_cons,
      List.mem_cons, or_assoc]

namespace Outlines

/-- References of the instance at a position. -/
theorem addReferences (h : r.Outlines names links positions)
    (hsources : (all referenceCall f).filterMap (fun name => positions.lookup name) = sources)
    (hself : position ∉ sources) :
    (r.addReferences position f).Outlines names (links ++ sources.map fun source => (source, position)) positions := by
  have hlookup : (all referenceCall f).filterMap (fun name => r.positions.lookup name) = sources := by
    rw [h.positions_eq, hsources]
  rw [Reading.addReferences, hlookup]
  refine ⟨?_, fun e => ?_, h.positions_eq⟩
  · rw [drafts_foldl_addLink, h.names_eq]
  · rw [mem_links_foldl_addLink hself, h.mem_links, List.mem_append]

/-- The configuration is no part of the outline. -/
theorem reconfigure (h : r.Outlines names links positions) (position : Nat) (config : ResourceConfig) :
    Outlines { r with sketch := r.sketch.modify position fun d => { d with config := config } }
      names links positions := by
  refine ⟨?_, h.mem_links, h.positions_eq⟩
  rw [← h.names_eq]
  apply List.ext_getElem?
  intro n
  simp only [Sketch.modify, List.getElem?_map, List.getElem?_modify]
  split
  · cases r.sketch.drafts[n]? <;> rfl
  · exact congrArg (Option.map Draft.name) (Option.map_id_apply)

end Outlines

theorem exists_configure (hf : IsReadable f) (c : ResourceConfig) : ∃ config, configure f c = .ok config := by
  rw [configure]
  cases hfirst : first? replicasCall f with
  | none => exact ⟨_, rfl⟩
  | some digits =>
    rcases hf digits hfirst with ⟨n, hn⟩
    simp only [hn]
    exact ⟨_, rfl⟩

namespace Outlines

/-- A fragment with an owner adds its references. -/
theorem apply_owned (h : r.Outlines names links positions) (hf : IsReadable f) {name : String} {rest : List Char}
    (howner : owner f = some (name, rest)) (hname : positions.lookup name = some position)
    (hposition : position < names.length)
    (hsources : (all referenceCall f).filterMap (fun name => positions.lookup name) = sources)
    (hself : position ∉ sources) :
    ∃ r', Reading.apply r f = .ok r' ∧
      r'.Outlines names (links ++ sources.map fun source => (source, position)) positions := by
  have hlt : position < r.sketch.drafts.length := by rwa [← h.names_eq, List.length_map] at hposition
  rcases exists_configure hf r.sketch.drafts[position].config with ⟨config, hconfig⟩
  refine ⟨_, apply_of_position ?_ (List.getElem?_eq_getElem hlt) hconfig, ?_⟩
  · rw [howner, h.positions_eq]
    exact hname
  · exact (h.addReferences hsources hself).reconfigure position config

/-- A fragment without references changes nothing, whoever owns it. -/
theorem apply_unlinked (h : r.Outlines names links positions) (hf : IsReadable f) (hnone : all referenceCall f = []) :
    ∃ r', Reading.apply r f = .ok r' ∧ r'.Outlines names links positions := by
  rcases Reading.exists_apply (r := r) fun config => exists_configure hf config with ⟨r', happly⟩
  refine ⟨r', happly, ?_⟩
  rcases Reading.apply_cases happly with rfl | ⟨position, draft, config, -, -, -, rfl⟩
  · exact h
  · -- a text can go on with the name of any variable after a semicolon
    have hsources : (all referenceCall f).filterMap (fun name => positions.lookup name) = [] := by
      rw [hnone, List.filterMap_nil]
    have hself : position ∉ ([] : List Nat) := List.not_mem_nil
    have hnext := (h.addReferences hsources hself).reconfigure position config
    rwa [List.map_nil, List.append_nil] at hnext

/-- Nor do fragments that are about no instance. -/
theorem foldlM_unlinked {fs : List (List Char)} (h : r.Outlines names links positions)
    (hfs : ∀ f ∈ fs, owner f = none ∨ all referenceCall f = [] ∧ IsReadable f) :
    ∃ r', fs.foldlM Reading.apply r = .ok r' ∧ r'.Outlines names links positions := by
  induction fs generalizing r with
  | nil => exact ⟨r, rfl, h⟩
  | cons f fs ih =>
    have hstep : ∃ r₁, Reading.apply r f = .ok r₁ ∧ r₁.Outlines names links positions := by
      rcases hfs f List.mem_cons_self with howner | ⟨hnone, hreadable⟩
      · exact ⟨r, apply_of_owner_eq_none howner, h⟩
      · exact h.apply_unlinked hreadable hnone
    rcases hstep with ⟨r₁, happly, hr₁⟩
    rcases ih hr₁ fun f' hf' => hfs f' (List.mem_cons_of_mem f hf') with ⟨r₂, hfold, hr₂⟩
    exact ⟨r₂, by rw [List.foldlM_cons]; exact Except.bind_eq_ok_iff.2 ⟨r₁, happly, hfold⟩, hr₂⟩

end Outlines

end Reading

end AppHost
end HostTopology
