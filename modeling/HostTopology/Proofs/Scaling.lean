import HostTopology.Proofs.Completion
import HostTopology.Proofs.Numbering
import HostTopology.Proofs.Settings

/-!
# Scaling — the bounds that apps are scaled between

A number of replicas comes to two places: into the AppHost, where it is written if it is above one, and into the
manifest, where it is the upper bound of an app unless it is missing or zero. No rule of validation refuses one.

* `Json.at?` — what stands in an object at the end of a path of names; `Json.holds_of_at?` finds it in the text;
* `Companion.IsScaled` — the bounds that an app of the manifest gives; `isScaled_containerApp_iff` finds them;
* `one_le_maxReplicas_iff` — the upper bound is below the lower one for negative numbers only;
* `maxReplicas_of_mem_chain` — the number in the AppHost is the upper bound in the manifest;
* `manifest_scales_iff` — the bounds of all apps are in order exactly if no app has a negative number;
* `holds_bounds` — the bounds as lines of the text.
-/

namespace HostTopology

open AppHost Companion

variable {r : Registry} {t : Topology} {i : ResourceInstance} {d : Declaration} {s : Statement} {o : RenderOptions}
  {a : Artifacts} {least most n : Int}

/-! ## Numbers as texts -/

theorem toString_inj {m n : Int} (h : toString m = toString n) : m = n := by
  -- no number without a sign is written like one with a sign
  have hminus : ∀ k l : Nat, "-" ++ k.repr ≠ l.repr := by
    intro k l hsame
    have hmem : '-' ∈ l.repr.toList := by
      rw [← hsame, String.toList_append]
      exact List.mem_append_left _ List.mem_cons_self
    exact not_mem_repr (by decide) l hmem
  cases m with
  | ofNat k =>
    cases n with
    | ofNat l => exact congrArg Int.ofNat (repr_inj h)
    | negSucc l => exact absurd h.symm (hminus (l + 1) k)
  | negSucc k =>
    cases n with
    | ofNat l => exact absurd h (hminus (k + 1) l)
    | negSucc l => exact congrArg Int.negSucc (Nat.succ_injective (repr_inj ((String.append_right_inj "-").1 h)))

/-! ## Bounds in the manifest -/

/-- What stands at the end of a path of names. -/
def Json.at? : List String → Json → Option Json
  | [], j => some j
  | name :: path, j => (j.member? name).bind (at? path)

/-- What stands at the end of a path stands in the text, behind the last name. -/
theorem Json.holds_of_at? {path : List String} {name : String} {j whole : Json}
    (h : whole.at? (path ++ [name]) = some j) (indent : Nat) :
    (renderAt indent whole).Holds (quote name ++ ": " ++ renderAt (indent + 2 * (path.length + 1)) j) := by
  induction path generalizing whole indent with
  | nil =>
    obtain ⟨found, hmember, hfound⟩ := Option.bind_eq_some_iff.1 h
    obtain rfl := Option.some.inj hfound
    exact holds_of_member? hmember indent
  | cons first path ih =>
    obtain ⟨inner, hmember, hrest⟩ := Option.bind_eq_some_iff.1 h
    -- the text of the first member ends with all that stands further down
    have hinner : (renderAt indent whole).Holds (renderAt (indent + 2) inner) :=
      (holds_of_member? hmember indent).trans ⟨_, "", (String.append_empty).symm⟩
    have hdeep := ih hrest (indent + 2)
    have hdepth : indent + 2 * (path.length + 1 + 1) = indent + 2 + 2 * (path.length + 1) := by omega
    rw [List.length_cons, hdepth]
    exact hinner.trans hdeep

namespace Companion

/-- Where an app of the manifest gives its bounds. -/
def scalePath : List String := ["properties", "template", "scale"]

/-- The app gives a lower and an upper bound for its replicas. -/
def IsScaled (app : Json) (least most : Int) : Prop :=
  app.at? (scalePath ++ ["minReplicas"]) = some (.number (toString least)) ∧
    app.at? (scalePath ++ ["maxReplicas"]) = some (.number (toString most))

theorem isScaled_containerApp_iff : IsScaled (containerApp i) least most ↔ least = 1 ∧ most = maxReplicas i := by
  have hleast : (containerApp i).at? (scalePath ++ ["minReplicas"]) = some (.number (toString (1 : Int))) := rfl
  have hmost : (containerApp i).at? (scalePath ++ ["maxReplicas"]) = some (.number (toString (maxReplicas i))) := rfl
  rw [IsScaled, hleast, hmost, Option.some.injEq, Option.some.injEq, Json.number.injEq, Json.number.injEq]
  constructor
  · rintro ⟨hone, hmax⟩
    exact ⟨(toString_inj hone).symm, (toString_inj hmax).symm⟩
  · rintro ⟨rfl, rfl⟩
    exact ⟨rfl, rfl⟩

theorem maxReplicas_of_some (hn : i.config.replicas = some n) (hne : n ≠ 0) : maxReplicas i = n := by
  rw [maxReplicas, hn]
  exact if_neg hne

/-- A number that is missing or zero becomes a bound of ten, and any other number is the bound itself. -/
theorem one_le_maxReplicas_iff : 1 ≤ maxReplicas i ↔ ∀ n, i.config.replicas = some n → 0 ≤ n := by
  rw [maxReplicas]
  cases i.config.replicas with
  | none => simp
  | some n =>
    simp only [Option.some.injEq, forall_eq']
    split <;> omega

end Companion

/-! ## Numbers in the AppHost -/

theorem maxReplicas_of_mem_chain (hd : declare? r t i = some d) (hs : s ∈ d.statements)
    (hn : .replicas n ∈ s.chain) : maxReplicas i = n := by
  have hwritten : n ∈ d.numbers :=
    List.mem_flatMap.2 ⟨s, hs, List.mem_filterMap.2 ⟨.replicas n, hn, rfl⟩⟩
  rw [numbers_of_declare? hd, Option.mem_toList, keptReplicas] at hwritten
  -- what is written is above one, and so it is no zero that the manifest would pass over
  obtain ⟨hcount, hmany⟩ := Option.filter_eq_some_iff.1 hwritten
  have hpos : 1 < n := of_decide_eq_true hmany
  exact maxReplicas_of_some hcount (by omega)

/-! ## Apps -/

theorem Faultless.isSome_declare?_of_isApp (h : Faultless r t) (hi : i ∈ t.sequence.ordered) (happ : isApp r i = true) :
    (declare? r t i).isSome := by
  have hworkload : Validation.isWorkload r i = true := (Bool.and_eq_true_iff.1 happ).2
  exact h.isSome_declare? (Topology.mem_of_mem_ordered hi) (isSome_of_isWorkload hworkload)

/-- The manifest has an app for each instance that becomes one, in dependency order. The bounds of all of them are in
order exactly if none has a negative number of replicas; and a number that the AppHost calls `WithReplicas` with for
an instance is the upper bound of its app. -/
theorem manifest_scales_iff (hok : t.compile r o = .ok a) (hblocked : a.isBlocked = false) :
    ∃ (instances : List ResourceInstance) (manifest : Json),
      instances = t.sequence.ordered.filter (isApp r) ∧ a.manifest = manifest.render ∧
      manifest.member? "containerApps" = some (.list (instances.map containerApp)) ∧
      a.appHost = AppHost.render r t o t.sequence.ordered ∧
      ((∀ app ∈ instances.map containerApp, ∃ least most, IsScaled app least most ∧ 1 ≤ least ∧ least ≤ most) ↔
        ∀ i ∈ instances, ∀ n, i.config.replicas = some n → 0 ≤ n) ∧
      ∀ i ∈ instances, ∃ d, declare? r t i = some d ∧ ∀ s ∈ d.statements, ∀ n, .replicas n ∈ s.chain →
        IsScaled (containerApp i) 1 n := by
  obtain ⟨h, -, rfl⟩ := compile_unblocked_iff.1 ⟨hok, hblocked⟩
  refine ⟨_, _, rfl, rfl, rfl, rfl, ?_, fun i hi => ?_⟩
  -- the apps are in order one by one, each by its own number
  · rw [List.forall_mem_map]
    refine forall₂_congr fun i _ => ?_
    rw [← one_le_maxReplicas_iff]
    constructor
    · rintro ⟨least, most, hscaled, hleast, hmost⟩
      obtain ⟨rfl, rfl⟩ := isScaled_containerApp_iff.1 hscaled
      exact hmost
    · intro hmax
      exact ⟨1, maxReplicas i, isScaled_containerApp_iff.2 ⟨rfl, rfl⟩, le_refl 1, hmax⟩
  · obtain ⟨hi, happ⟩ := List.mem_filter.1 hi
    obtain ⟨d, hd⟩ := Option.isSome_iff_exists.1 (h.isSome_declare?_of_isApp hi happ)
    refine ⟨d, hd, fun s hs n hn => ?_⟩
    exact isScaled_containerApp_iff.2 ⟨rfl, (maxReplicas_of_mem_chain hd hs hn).symm⟩

/-- The text of the manifest has the bounds of every app. -/
theorem holds_bounds (hok : t.compile r o = .ok a) (hblocked : a.isBlocked = false) (hi : i ∈ t.sequence.ordered)
    (happ : isApp r i = true) :
    a.manifest.Holds (Json.renderAt 4 (containerApp i)) ∧
      (Json.renderAt 4 (containerApp i)).Holds (Json.quote "minReplicas" ++ ": 1") ∧
      (Json.renderAt 4 (containerApp i)).Holds (Json.quote "maxReplicas" ++ ": " ++ toString (maxReplicas i)) := by
  obtain ⟨-, -, rfl⟩ := compile_unblocked_iff.1 ⟨hok, hblocked⟩
  have hmem : containerApp i ∈ (t.sequence.ordered.filter (isApp r)).map containerApp :=
    List.mem_map_of_mem (List.mem_filter.2 ⟨hi, happ⟩)
  have happs : (Json.object [("containerApps", .list ((t.sequence.ordered.filter (isApp r)).map containerApp))]).member?
      "containerApps" = some (.list ((t.sequence.ordered.filter (isApp r)).map containerApp)) := rfl
  have hlist := (Json.holds_of_member? happs 0).trans ⟨_, "", (String.append_empty).symm⟩
  obtain ⟨hleast, hmost⟩ := isScaled_containerApp_iff (i := i).2 ⟨rfl, rfl⟩
  exact ⟨hlist.trans (Json.holds_renderAt_list hmem 2), Json.holds_of_at? hleast 4, Json.holds_of_at? hmost 4⟩

/-- Services without a number of replicas, with none, with one and with several. -/
def fleet : Topology where
  instances :=
    let service (id name : String) (replicas : Option Int) : ResourceInstance :=
      ⟨id, "dotnet-project", name, none, { ResourceConfig.empty with replicas := replicas }⟩
    [service "1" "web" none, service "2" "cron" (some 0), service "3" "mail" (some 1), service "4" "api" (some 3)]
  connections := []

theorem fleet_scaled : ∃ a, fleet.compile .standard .standard = .ok a ∧ a.isBlocked = false ∧
    ∃ (instances : List ResourceInstance) (manifest : Json), instances.map (·.name) = ["web", "cron", "mail", "api"] ∧
      a.manifest = manifest.render ∧
      manifest.member? "containerApps" = some (.list (instances.map containerApp)) ∧
      ∀ app ∈ instances.map containerApp, ∃ least most, IsScaled app least most ∧ 1 ≤ least ∧ least ≤ most := by
  have hrules : PassesRules .standard fleet := by decide
  have hwritable : Writable .standard .standard fleet fleet.sequence.ordered :=
    ⟨⟨"    ", by decide +kernel⟩, by decide +kernel⟩
  obtain ⟨hok, hblocked⟩ := compile_unblocked_iff.2 ⟨hrules.faultless acyclic_nil, hwritable, rfl⟩
  obtain ⟨instances, manifest, rfl, hmanifest, hmember, -, hscales, -⟩ := manifest_scales_iff hok hblocked
  exact ⟨_, hok, hblocked, _, manifest, by decide, hmanifest, hmember, hscales.2 (by decide)⟩

/-- A service with a number of replicas below zero. -/
def shrunk : Topology where
  instances := [⟨"1", "dotnet-project", "api", none, { ResourceConfig.empty with replicas := some (-3) }⟩]
  connections := []

theorem shrunk_not_scaled : ∃ a app, shrunk.compile .standard .standard = .ok a ∧ a.isBlocked = false ∧
    a.manifest = (Json.object [("containerApps", .list [app])]).render ∧ IsScaled app 1 (-3) ∧
      ∀ least most, IsScaled app least most → ¬ (1 ≤ least ∧ least ≤ most) := by
  have hrules : PassesRules .standard shrunk := by decide
  have hwritable : Writable .standard .standard shrunk shrunk.sequence.ordered :=
    ⟨⟨"    ", by decide +kernel⟩, by decide +kernel⟩
  obtain ⟨hok, hblocked⟩ := compile_unblocked_iff.2 ⟨hrules.faultless acyclic_nil, hwritable, rfl⟩
  refine ⟨_, _, hok, hblocked, rfl, isScaled_containerApp_iff.2 ⟨rfl, by decide⟩, ?_⟩
  rintro least most hscaled ⟨hleast, hmost⟩
  obtain ⟨rfl, rfl⟩ := isScaled_containerApp_iff.1 hscaled
  exact absurd hmost (by decide)

end HostTopology
