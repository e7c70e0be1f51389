import HostTopology.Proofs.Agreement
import HostTopology.Proofs.Revalidation
import Mathlib.Data.List.Flatten

/-!
# RoundTrip — an AppHost that is read back gives the same AppHost

From the AppHost of a topology another topology is read, with other ids, without types that have no
declaration, and without what no call shows. Still it is faultless, is in dependency order already,
and everything that is generated from it for the application is the same.

* `Faultless.lineup`, `Faultless.listing` — the declared instances of a faultless topology, in dependency order;
* `compile_roundTrip` — the round trip.
-/

namespace HostTopology

open AppHost Catalog Validation

variable {t : Topology} {l : List ResourceInstance} {o : RenderOptions} {a : Artifacts}

/-! ## The first lines -/

theorem exists_packageSpec {ids : List String} {package : String}
    (h : package ∈ Registry.standard.requiredPackages ids) :
    ∃ type ∈ resourceTypes, package = type.packageSpec := by
  rw [Registry.requiredPackages, Registry.sortTexts, List.mem_mergeSort, List.mem_eraseDups] at h
  rcases List.mem_filterMap.1 h with ⟨id, -, hspec⟩
  rcases Option.bind_eq_some_iff.1 hspec with ⟨type, htype, hspec⟩
  refine ⟨type, List.mem_of_find?_eq_some htype, ?_⟩
  split at hspec
  · cases hspec
  · exact (Option.some.inj hspec).symm

theorem isHeadingChar_package {type : ResourceType} (htype : type ∈ resourceTypes) :
    ∀ c ∈ ("#:package " ++ type.packageSpec).toList, isHeadingChar c = true := by
  have hmarks : ∀ c ∈ "#:package ".toList ++ "@".toList, isHeadingChar c = true := by decide
  have hparts : ∀ type ∈ resourceTypes, (∀ c ∈ type.package.toList, isHeadingChar c = true) ∧
      ∀ c ∈ type.packageVersion.toList, isHeadingChar c = true := by decide
  intro c hc
  simp only [ResourceType.packageSpec, String.toList_append, List.mem_append] at hc
  rcases hc with hc | (hc | hc) | hc
  · exact hmarks c (List.mem_append_left _ hc)
  · exact (hparts type htype).1 c hc
  · exact hmarks c (List.mem_append_right _ hc)
  · exact (hparts type htype).2 c hc

/-- The lines of directives name the SDK and packages of the catalog. -/
theorem isHeadingChar_line (hversion : o.aspireVersion = RenderOptions.standard.aspireVersion) {ids : List String}
    {line : String} (hline : line ∈ sdkLine o :: packageLines (Registry.standard.requiredPackages ids)) :
    ∀ c ∈ line.toList, isHeadingChar c = true := by
  have hsdk : ∀ c ∈ (sdkLine .standard).toList, isHeadingChar c = true := by decide
  rw [packageLines, List.mem_cons, List.mem_append] at hline
  rcases hline with rfl | hline | hline
  · have hline : sdkLine o = sdkLine .standard := congrArg (fun v => "#:sdk Aspire.AppHost.Sdk@" ++ v) hversion
    rwa [hline]
  · rcases List.mem_map.1 hline with ⟨package, hpackage, rfl⟩
    rcases exists_packageSpec hpackage with ⟨type, htype, rfl⟩
    exact isHeadingChar_package htype
  · -- an empty line ends the directives if there are packages
    split at hline
    · exact absurd hline List.not_mem_nil
    · rw [List.mem_singleton.1 hline]
      exact fun c hc => absurd hc List.not_mem_nil

theorem isHeadingChar_directives (hversion : o.aspireVersion = RenderOptions.standard.aspireVersion)
    (ids : List String) :
    ∀ c ∈ directives o (Registry.standard.requiredPackages ids), isHeadingChar c = true := by
  intro c hc
  rw [directives, String.toList_join, List.mem_flatMap] at hc
  rcases hc with ⟨ended, hended, hc⟩
  rcases List.mem_map.1 hended with ⟨line, hline, rfl⟩
  rw [String.toList_append, List.mem_append] at hc
  rcases hc with hc | hc
  · exact isHeadingChar_line hversion hline c hc
  · revert c
    decide

/-! ## Declared instances -/

theorem sublist_order (hd : t.DistinctIds) :
    ((knownOnes t.sequence.ordered).map ResourceInstance.id).Sublist t.order := by
  rw [← Topology.map_id_ordered hd]
  exact List.filter_sublist.map _

theorem Faultless.lineup (h : Faultless .standard t) (hd : t.DistinctIds) :
    Lineup t (knownOnes t.sequence.ordered) := by
  have hperm := h.ordered_perm hd
  constructor
  case faultless => exact h
  case mem => exact fun i hi => hperm.mem_iff.1 (List.mem_filter.1 hi).1
  case known => exact fun i hi => (List.mem_filter.1 hi).2
  case complete => exact fun i hi hknown => List.mem_filter.2 ⟨hperm.mem_iff.2 hi, hknown⟩
  case ids => exact (Topology.order_dependencyOrder hd).nodup.sublist (sublist_order hd)
  case distinct =>
    have hsub : ((knownOnes t.sequence.ordered).flatMap (declaredFor .standard)).Sublist
        (t.sequence.ordered.flatMap (declaredFor .standard)) := List.filter_sublist.flatMap _
    have hnodup := ((hperm.flatMap_right (declaredFor .standard)).map Declared.name).nodup_iff.2 h.nodup_variables
    exact hnodup.sublist (hsub.map _)

theorem Faultless.listing (h : Faultless .standard t) (hd : t.DistinctIds)
    (hpairs : (t.connections.map fun c => (c.source, c.target)).Nodup) :
    Listing t (knownOnes t.sequence.ordered) :=
  ⟨h.lineup hd, hpairs⟩

/-! ## The round trip -/

/-- What is read back from the AppHost of a topology generates the same AppHost, with the same packages
and settings. -/
theorem compile_roundTrip (hversion : o.aspireVersion = RenderOptions.standard.aspireVersion)
    (hd : t.DistinctIds) (hpairs : (t.connections.map fun c => (c.source, c.target)).Nodup)
    (htexts : HasPlainTexts t) (hok : t.compile .standard o = .ok a) (hblocked : a.isBlocked = false)
    (fileName : String) :
    ∃ found a', Format.appHost.read .standard [] fileName a.appHost = .ok found ∧
      found.topology.compile .standard o = .ok a' ∧ a'.isBlocked = false ∧ a'.appHost = a.appHost ∧
        a'.requiredPackages = a.requiredPackages ∧ a'.settings = a.settings := by
  rcases compile_unblocked_iff.1 ⟨hok, hblocked⟩ with ⟨hfaultless, hwritable, rfl⟩
  have hlisting := hfaultless.listing hd hpairs
  have hdeclared : t.sequence.ordered.filterMap (declare? .standard t) =
      (knownOnes t.sequence.ordered).filterMap (declare? .standard t) :=
    (filterMap_knownOnes fun i => declare?_of_unknown).symm
  have hplain : ∀ i ∈ knownOnes t.sequence.ordered, ∀ d, declare? .standard t i = some d → d.IsPlain := by
    intro i hi d hdeclare
    refine isPlain_declaration hfaultless htexts (hlisting.mem i hi) hdeclare fun s hs n hn => ?_
    have hmem := List.mem_filterMap.2 ⟨i, (List.mem_filter.1 hi).1, hdeclare⟩
    exact hwritable.numbers n (mem_numbers hmem hs hn)
  -- what is read is the topology with new ids
  obtain ⟨s, hs, hdrafts, hlinks⟩ :=
    hlisting.exists_sketch hdeclared (isHeadingChar_directives hversion _) hplain
  have htopology : (s.imported []).topology = reissued t (knownOnes t.sequence.ordered) :=
    hlisting.topology_imported hdrafts hlinks
  -- and it is generated from in the order in which it was read
  have hordered := hlisting.ordered_reissued hd (sublist_order hd)
  have hnew := hlisting.writable_reissued htexts hwritable
  rw [← hordered] at hnew
  obtain ⟨hok', hblocked'⟩ := compile_unblocked_iff.2
    ⟨hlisting.faultless_reissued hd (sublist_order hd), hnew, rfl⟩
  refine ⟨s.imported [], _, ?_, htopology ▸ hok', hblocked', ?_, ?_, ?_⟩
  · have hread : Format.appHost.sketch .standard fileName
        (Artifacts.ofOrdered .standard o t t.sequence.ordered).appHost = .ok s := hs
    exact Format.read_eq hread
  · rw [hordered]
    exact hlisting.render_reissued htexts o
  · rw [hordered]
    exact requiredPackages_reissued _ _
  · rw [hordered]
    exact settingsText_reissued _ _

/-- A service with a setting and replicas that waits for a database with a bind mount, and something of
an unknown type. -/
def furnished : Topology where
  instances := [
    ⟨"api", "dotnet-project", "api", none, ⟨[⟨"MODE", "a=b"⟩, ⟨"", "left out"⟩], [], [], some 3, none⟩⟩,
    ⟨"x", "mystery", "x", none, .empty⟩,
    ⟨"db", "postgres", "pg", some "appdb", ⟨[], [⟨"", some "80"⟩], [⟨"./data", "/var/lib"⟩], none, none⟩⟩]
  connections := [.make "" "db" "api" .waitFor]

theorem furnished_distinctIds : furnished.DistinctIds := by decide

theorem furnished_faultless : Faultless .standard furnished := by
  have hrules : PassesRules .standard furnished := by decide
  exact hrules.faultless ((Topology.unsequenced_eq_nil_iff furnished_distinctIds).1 (by decide))

theorem furnished_roundTrip : ∃ a found a', furnished.compile .standard .standard = .ok a ∧
    Format.appHost.read .standard [] "AppHost.cs" a.appHost = .ok found ∧
      found.topology.compile .standard .standard = .ok a' ∧ a'.appHost = a.appHost := by
  have hpairs : (furnished.connections.map fun c => (c.source, c.target)).Nodup := by decide +kernel
  have hmode : AppHost.IsPlain "MODE" ∧ AppHost.IsPlain "a=b" :=
    ⟨⟨by decide, by decide⟩, ⟨by decide, by decide⟩⟩
  have hempty : AppHost.IsPlain "" ∧ AppHost.IsPlain "left out" :=
    ⟨⟨by decide, by decide⟩, ⟨by decide, by decide⟩⟩
  have hmount : AppHost.IsPlain "./data" ∧ AppHost.IsPlain "/var/lib" :=
    ⟨⟨by decide, by decide⟩, ⟨by decide, by decide⟩⟩
  have htexts : HasPlainTexts furnished := by
    constructor
    case ports => decide
    case envVars => simp [furnished, ResourceConfig.empty, hmode, hempty]
    case volumes => simp [furnished, ResourceConfig.empty, hmount]
  have hwritable : Writable .standard .standard furnished furnished.sequence.ordered :=
    ⟨⟨"    ", by decide +kernel⟩, by decide +kernel⟩
  -- the topology compiles, so that the theorem applies
  rcases compile_unblocked_iff.2 ⟨furnished_faultless, hwritable, rfl⟩ with ⟨hok, hblocked⟩
  obtain ⟨found, a', hread, hok', -, hsame, -⟩ :=
    compile_roundTrip rfl furnished_distinctIds hpairs htexts hok hblocked "AppHost.cs"
  exact ⟨_, found, a', hok, hread, hok', hsame⟩

end HostTopology
