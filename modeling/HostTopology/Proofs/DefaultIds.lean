import HostTopology.Proofs.Editing

/-!
# DefaultIds — connections that are named after their ends

A connection that is given no id is named after its ends, with underscores between the parts. Ids of instances
may hold underscores themselves, so that one text can be the name of several pairs of ends.

* `Connection.Overlaps` — the ends of two connections share a text with an underscore before and behind it;
* `Connection.defaultId_eq_iff` — ends with one name are the same, or overlap;
* `Topology.connections_editAll` — drawing keeps the connections, in the order in which they are drawn;
* `Topology.HasDefaultIds` — every connection is named after its ends;
* `drawn_ids_nodup_iff` — connections that are drawn without ids, each between other ends, have different ids, and are
  taken away one at a time, exactly if no two of them overlap.
-/

namespace HostTopology

variable {r : Registry} {t : Topology} {c c' : Connection} {edits : List Edit}

/-! ## Names of ends -/

namespace Connection

/-- A text stands behind the source of the one, and before the target of the other. -/
def Overlaps (c c' : Connection) : Prop :=
  ∃ w, c'.source = c.source ++ "_" ++ w ∧ c.target = w ++ "_" ++ c'.target

theorem Overlaps.defaultId_eq (h : c.Overlaps c') :
    defaultId c.source c.target = defaultId c'.source c'.target := by
  obtain ⟨w, hsource, htarget⟩ := h
  simp only [defaultId, hsource, htarget, String.append_assoc]

theorem not_overlaps_self (c : Connection) : ¬ c.Overlaps c := by
  rintro ⟨w, hsource, -⟩
  have hlength : c.source.length = c.source.length + 1 + w.length := by
    conv_lhs => rw [hsource, String.length_append, String.length_append]
    rfl
  omega

/-- A text that is cut in two places has a part between them. -/
theorem overlaps_of_append_eq {w : List Char} (hsource : c'.source.toList = c.source.toList ++ '_' :: w)
    (htarget : c.target.toList = w ++ '_' :: c'.target.toList) : c.Overlaps c' := by
  have hunderscore : "_".toList = ['_'] := rfl
  refine ⟨String.ofList w, String.toList_inj.1 ?_, String.toList_inj.1 ?_⟩
  · simp [hsource, hunderscore]
  · simp [htarget, hunderscore]

/-- The part that one source has behind the other is empty, or it begins with the underscore of the other. -/
theorem eq_or_overlaps {before : List Char} (hsource : c'.source.toList = c.source.toList ++ before)
    (htarget : '_' :: c.target.toList = before ++ '_' :: c'.target.toList) :
    (c.source = c'.source ∧ c.target = c'.target) ∨ c.Overlaps c' := by
  cases before with
  | nil =>
    -- both are cut at the same underscore
    refine Or.inl ⟨String.toList_inj.1 ?_, String.toList_inj.1 ?_⟩
    · rw [hsource, List.append_nil]
    · exact List.tail_eq_of_cons_eq htarget
  | cons x w =>
    rw [List.cons_append, List.cons.injEq] at htarget
    obtain ⟨rfl, htarget⟩ := htarget
    exact Or.inr (overlaps_of_append_eq hsource htarget)

theorem defaultId_eq_iff : defaultId c.source c.target = defaultId c'.source c'.target ↔
    (c.source = c'.source ∧ c.target = c'.target) ∨ c.Overlaps c' ∨ c'.Overlaps c := by
  constructor
  · intro h
    have hends : c.source.toList ++ '_' :: c.target.toList = c'.source.toList ++ '_' :: c'.target.toList := by
      have htext := congrArg String.toList h
      simp only [defaultId, String.toList_append, List.append_assoc] at htext
      exact List.append_cancel_left htext
    -- one of the sources begins the other
    rcases List.append_eq_append_iff.1 hends with ⟨before, hsource, htarget⟩ | ⟨before, hsource, htarget⟩
    · exact (eq_or_overlaps hsource htarget).imp_right Or.inl
    · exact (eq_or_overlaps hsource htarget).imp (fun h => ⟨h.1.symm, h.2.symm⟩) Or.inr
  · rintro (⟨hsource, htarget⟩ | hoverlap | hoverlap)
    · rw [hsource, htarget]
    · exact hoverlap.defaultId_eq
    · exact hoverlap.defaultId_eq.symm

end Connection

/-! ## Topologies with such names -/

namespace Topology

def HasDefaultIds (t : Topology) : Prop :=
  ∀ c ∈ t.connections, c.id = Connection.defaultId c.source c.target

theorem nodup_connections (hends : t.ends.Nodup) : t.connections.Nodup :=
  List.Nodup.of_map _ hends

/-- Where no ends are joined twice, only connections that overlap have one id. -/
theorem id_eq_iff (h : t.HasDefaultIds) (hends : t.ends.Nodup) (hc : c ∈ t.connections) (hc' : c' ∈ t.connections) :
    c.id = c'.id ↔ c = c' ∨ c.Overlaps c' ∨ c'.Overlaps c := by
  have hsame : (c.source = c'.source ∧ c.target = c'.target) ↔ c = c' := by
    refine ⟨fun heq => List.inj_on_of_nodup_map hends hc hc' (Prod.ext heq.1 heq.2), ?_⟩
    rintro rfl
    exact ⟨rfl, rfl⟩
  rw [h c hc, h c' hc', Connection.defaultId_eq_iff, hsame]

theorem nodup_ids_iff (h : t.HasDefaultIds) (hends : t.ends.Nodup) :
    (t.connections.map Connection.id).Nodup ↔ ∀ c ∈ t.connections, ∀ c' ∈ t.connections, ¬ c.Overlaps c' := by
  constructor
  · intro hnodup c hc c' hc' hoverlap
    have hid : c.id = c'.id := (id_eq_iff h hends hc hc').2 (Or.inr (Or.inl hoverlap))
    obtain rfl := List.inj_on_of_nodup_map hnodup hc hc' hid
    exact c.not_overlaps_self hoverlap
  · intro hapart
    -- connections with one id would overlap, in one order or the other
    refine (nodup_connections hends).map_on fun c hc c' hc' hid => ?_
    refine ((id_eq_iff h hends hc hc').1 hid).resolve_right ?_
    rintro (hoverlap | hoverlap)
    · exact hapart c hc c' hc' hoverlap
    · exact hapart c' hc' c hc hoverlap

/-- Taking connections away by an id takes away a single one if no other has the id. -/
theorem disconnect_eq_erase_iff (hnodup : t.connections.Nodup) :
    t.disconnect c.id = { t with connections := t.connections.erase c } ↔
      ∀ c' ∈ t.connections, c'.id = c.id → c' = c := by
  have hfilter : t.disconnect c.id = { t with connections := t.connections.erase c } ↔
      t.connections.filter (fun c' => c'.id ≠ c.id) = t.connections.filter (· != c) := by
    rw [disconnect, Topology.mk.injEq, hnodup.erase_eq_filter, eq_self, true_and]
  rw [hfilter]
  -- a single connection has been filtered out if the filters agree on all connections
  constructor
  · intro heq c' hc' hid
    by_contra hne
    have hkept : c' ∈ t.connections.filter (· != c) := List.mem_filter.2 ⟨hc', bne_iff_ne.2 hne⟩
    rw [← heq] at hkept
    exact of_decide_eq_true (List.mem_filter.1 hkept).2 hid
  · intro halone
    refine List.filter_congr fun c' hc' => ?_
    have hiff : c'.id ≠ c.id ↔ c' ≠ c := not_congr ⟨halone c' hc', congrArg Connection.id⟩
    rw [Bool.eq_iff_iff, decide_eq_true_iff, bne_iff_ne, hiff]

theorem disconnect_iff (h : t.HasDefaultIds) (hends : t.ends.Nodup) (hc : c ∈ t.connections) :
    t.disconnect (Connection.defaultId c.source c.target) = { t with connections := t.connections.erase c } ↔
      ∀ c' ∈ t.connections, ¬ c.Overlaps c' ∧ ¬ c'.Overlaps c := by
  rw [← h c hc, disconnect_eq_erase_iff (nodup_connections hends)]
  refine forall₂_congr fun c' hc' => ?_
  rw [id_eq_iff h hends hc' hc]
  constructor
  · intro hsame
    constructor
    · intro hoverlap
      -- they are one connection, which does not overlap itself
      obtain rfl := hsame (Or.inr (Or.inr hoverlap))
      exact c'.not_overlaps_self hoverlap
    · intro hoverlap
      obtain rfl := hsame (Or.inr (Or.inl hoverlap))
      exact c'.not_overlaps_self hoverlap
  · rintro ⟨hbefore, hbehind⟩ (heq | hoverlap | hoverlap)
    · exact heq
    · exact absurd hoverlap hbehind
    · exact absurd hoverlap hbefore

end Topology

/-! ## Drawing -/

/-- Instances are added, and connections without an id. -/
def Edit.Draws : Edit → Prop
  | .add _ => True
  | .connect _ _ _ id => id = ""
  | _ => False

/-- The connection that a step adds. -/
def Edit.connection? : Edit → Option Connection
  | .connect source target kind id => some (.make id source target kind)
  | _ => none

namespace Topology

theorem connections_edit {e : Edit} (he : e.Draws) :
    ∃ u, t.edit r e = .ok ⟨u, []⟩ ∧ u.connections = t.connections ++ e.connection?.toList := by
  cases e with
  | add i => exact ⟨t.addInstance i, rfl, (List.append_nil _).symm⟩
  | connect source target kind id => exact ⟨t.connect source target kind id, rfl, rfl⟩
  | _ => exact he.elim

/-- No connection is lost on the way, and none comes to be that is not drawn. -/
theorem connections_editAll (hedits : ∀ e ∈ edits, e.Draws) :
    (t.editAll r edits).connections = t.connections ++ edits.filterMap Edit.connection? := by
  -- each step keeps what has been drawn before it
  induction edits generalizing t with
  | nil => exact (List.append_nil _).symm
  | cons e edits ih =>
    obtain ⟨he, hedits⟩ := List.forall_mem_cons.1 hedits
    obtain ⟨u, hu, hconnections⟩ := connections_edit (r := r) (t := t) he
    have hstep : t.editAll r (e :: edits) = u.editAll r edits := by
      rw [editAll, List.foldl_cons, hu]
      rfl
    rw [hstep, ih hedits, hconnections, List.append_assoc]
    cases hc : e.connection? <;> simp [hc]

theorem hasDefaultIds_editAll (hedits : ∀ e ∈ edits, e.Draws) : (empty.editAll r edits).HasDefaultIds := by
  intro c hc
  rw [connections_editAll hedits, empty, List.nil_append, List.mem_filterMap] at hc
  obtain ⟨e, he, hce⟩ := hc
  have hdraws := hedits e he
  cases e with
  | connect source target kind id =>
    obtain rfl : id = "" := hdraws
    obtain rfl := Option.some.inj hce
    rfl
  | _ => cases hce

end Topology

/-- A topology that is drawn from nothing. -/
def Topology.IsDrawn (t : Topology) : Prop :=
  ∃ (r : Registry) (edits : List Edit), (∀ e ∈ edits, e.Draws) ∧ Topology.empty.editAll r edits = t

theorem Topology.IsDrawn.hasDefaultIds (h : t.IsDrawn) : t.HasDefaultIds := by
  obtain ⟨r, edits, hedits, rfl⟩ := h
  exact hasDefaultIds_editAll hedits

/-- Connections that are drawn without ids, each between other ends, have ids that differ exactly if no two of them
overlap. By the name of its ends a connection is taken away, and nothing else, exactly if it overlaps with no other. -/
theorem drawn_ids_nodup_iff (h : t.IsDrawn) (hends : t.ends.Nodup) :
    ((t.connections.map Connection.id).Nodup ↔ ∀ c ∈ t.connections, ∀ c' ∈ t.connections, ¬ c.Overlaps c') ∧
      ∀ c ∈ t.connections,
        t.disconnect (Connection.defaultId c.source c.target) = { t with connections := t.connections.erase c } ↔
          ∀ c' ∈ t.connections, ¬ c.Overlaps c' ∧ ¬ c'.Overlaps c :=
  ⟨Topology.nodup_ids_iff h.hasDefaultIds hends, fun _ hc => Topology.disconnect_iff h.hasDefaultIds hends hc⟩

/-- Two services that refer to each other, and a third that is drawn last. Their ids hold underscores. -/
def circuit : List Edit := [
  .add ⟨"node_0", "dotnet-project", "web", none, .empty⟩,
  .connect "node_0" "node_1" .reference "",
  .connect "node_1" "node_0" .waitFor "",
  .add ⟨"node_1", "dotnet-project", "api", none, .empty⟩,
  .connect "node_0" "node_2" .reference "",
  .add ⟨"node_2", "dotnet-project", "cron", none, .empty⟩]

theorem circuit_ids_nodup : ∃ t : Topology, t.IsDrawn ∧ t.connections.length = 3 ∧
    (∀ c ∈ t.connections, ∀ c' ∈ t.connections, ¬ c.Overlaps c') ∧ ∀ c ∈ t.connections,
      t.disconnect (Connection.defaultId c.source c.target) = { t with connections := t.connections.erase c } := by
  have hdraws : ∀ e ∈ circuit, e.Draws := by simp [circuit, Edit.Draws]
  have hdrawn : (Topology.empty.editAll .standard circuit).IsDrawn := ⟨.standard, circuit, hdraws, rfl⟩
  obtain ⟨hids, hdisconnect⟩ := drawn_ids_nodup_iff hdrawn (by decide)
  have hapart := hids.1 (by decide)
  refine ⟨_, hdrawn, by decide, hapart, fun c hc => (hdisconnect c hc).2 fun c' hc' => ?_⟩
  exact ⟨hapart c hc c' hc', hapart c' hc' c hc⟩

/-- Two services, each with a cache of its own. The ends of the one connection overlap with those of the other. -/
def crossed : List Edit := [
  .add ⟨"a", "redis", "cache", none, .empty⟩,
  .add ⟨"b_c", "dotnet-project", "api", none, .empty⟩,
  .add ⟨"a_b", "redis", "store", none, .empty⟩,
  .add ⟨"c", "dotnet-project", "web", none, .empty⟩,
  .connect "a" "b_c" .reference "",
  .connect "a_b" "c" .reference ""]

theorem crossed_ids_not_nodup : ∃ t : Topology, t.IsDrawn ∧ t.ends = [("a", "b_c"), ("a_b", "c")] ∧ t.ends.Nodup ∧
    ¬ (t.connections.map Connection.id).Nodup ∧
      (t.disconnect (Connection.defaultId "a" "b_c")).connections = [] := by
  have hdraws : ∀ e ∈ crossed, e.Draws := by simp [crossed, Edit.Draws]
  exact ⟨_, ⟨.standard, crossed, hdraws, rfl⟩, by decide, by decide, by decide, by decide⟩

end HostTopology
