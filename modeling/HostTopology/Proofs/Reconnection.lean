import HostTopology.Proofs.Constraints
import HostTopology.Proofs.Outline
import HostTopology.Proofs.RoundTrip

/-!
# Reconnection — the connections that are read back from an AppHost

The connections of a topology survive in its AppHost, if no text of a configuration holds a mark of the
reader, and no semicolon in such a text cuts a reference off from the variable of its statement:

* `shownTexts`, `IsReconnectable` — the texts of an instance, and topologies whose texts do no harm;
* `Lineup.outline_statements` — what is read of the links, statement by statement;
* `Topology.namePairs` — the connections, by the names at their ends;
* `connections_reread` — these pairs are read back.
-/

namespace HostTopology
namespace AppHost

open Catalog Naming Validation Text Scan

variable {t : Topology} {l part : List ResourceInstance} {i : ResourceInstance} {type : ResourceType}
  {category : ResourceCategory} {d : Declaration} {c : ChainCall} {r : Reading} {names : List String}
  {links : List (Nat × Nat)} {positions : List (String × Nat)} {gap indent : List Char} {o : RenderOptions}

/-! ## The texts of a configuration -/

/-- The texts of an instance that its declaration shows as they are. -/
def shownTexts (i : ResourceInstance) : List String :=
  (keptEnvVars i).flatMap (fun v => [v.key, v.value])
    ++ (keptPorts i).flatMap (fun p => (p.host.filter present).toList)
    ++ (keptVolumes i).flatMap fun v => [v.source, v.target]

/-- Besides these texts, only numbers of ports stand in the calls. -/
theorem mem_texts_configChain (hfaultless : Faultless .standard t) (hi : i ∈ t.instances)
    (hknown : (Registry.standard.find? i.resourceType).isSome) :
    ∀ c ∈ configChain i category, ∀ s ∈ c.texts, s ∈ shownTexts i ∨ ∀ ch ∈ s.toList, isDigit ch = true := by
  rw [forall_configChain_iff]
  refine ⟨fun _ s hs => absurd hs List.not_mem_nil, fun c hc s hs => ?_, fun v hv s hs => Or.inl ?_,
    fun p hp s hs => ?_, fun v hv s hs => Or.inl ?_, fun n _ s hs => absurd hs List.not_mem_nil⟩
  · -- the default port of a container
    rcases eq_of_mem_defaultChain hc with rfl | rfl
    · exact absurd hs List.not_mem_nil
    · obtain rfl := List.mem_singleton.1 hs
      exact Or.inr (by decide)
  · exact List.mem_append_left _ (List.mem_append_left _ (List.mem_flatMap.2 ⟨v, hv, hs⟩))
  · rcases List.mem_append.1 hs with hs | hs
    · exact Or.inl (List.mem_append_left _ (List.mem_append_right _ (List.mem_flatMap.2 ⟨p, hp, hs⟩)))
    · -- validation has read the container's port as a number
      obtain rfl := List.mem_singleton.1 hs
      have hdigits := (isPortNumber_of_mem_keptPorts hfaultless hi hknown hp).allDigits
      rw [allDigits, Bool.and_eq_true, List.all_eq_true] at hdigits
      exact Or.inr hdigits.2
  · exact List.mem_append_right _ (List.mem_flatMap.2 ⟨v, hv, hs⟩)

/-- Digits are no part of a mark, and neither a line end nor a semicolon. -/
theorem not_mem_of_isDigit {s : String} (h : ∀ c ∈ s.toList, isDigit c = true) {ch : Char}
    (hch : isDigit ch = false) : ch ∉ s.toList := by
  intro hmem
  rw [h ch hmem] at hch
  cases hch

theorem isMute_of_isDigit {s : String} (h : ∀ c ∈ s.toList, isDigit c = true) : IsMute s := by
  have hdot : ∀ m ∈ marks, '.' ∈ m.toList := by decide
  refine ⟨not_mem_of_isDigit h (by decide), fun m hm => contains_eq_false_iff.2 fun hoccurs => ?_⟩
  exact not_mem_of_isDigit h (by decide : isDigit '.' = false) (hoccurs.subset (hdot m hm))

theorem isMute_configChain (hfaultless : Faultless .standard t) (hi : i ∈ t.instances)
    (hknown : (Registry.standard.find? i.resourceType).isSome) (hmute : ∀ s ∈ shownTexts i, IsMute s)
    (hnumbers : ∀ n ∈ keptReplicas i, n.natAbs < numeralBound) : ∀ c ∈ configChain i category, c.IsMute := by
  have hplain : ∀ c ∈ configChain i category, c.texts = [] → c.IsPlain := by
    rw [forall_configChain_iff]
    refine ⟨fun _ _ => trivial, fun c hc _ => isPlain_defaultChain hc, ?_, ?_, ?_, ?_⟩
    · exact fun _ _ h => nomatch h
    · exact fun _ _ h => absurd h (List.append_ne_nil_of_right_ne_nil _ (List.cons_ne_nil _ _))
    · exact fun _ _ h => nomatch h
    · intro n hn _
      exact ⟨by simpa using (Option.filter_eq_some_iff.1 hn).2, hnumbers n hn⟩
  intro c hc
  refine ⟨fun s hs => ?_, hplain c hc⟩
  rcases mem_texts_configChain hfaultless hi hknown c hc s hs with hs | hs
  · exact hmute s hs
  · exact isMute_of_isDigit hs

theorem isMute_referenceChain {id : String} : ∀ c ∈ referenceChain .standard t id, c.IsMute ∧ c.texts = [] := by
  intro c hc
  have htexts : c.texts = [] := forall_mem_referenceChain (P := fun c => c.texts = []) (fun _ => rfl) (fun _ => rfl) c hc
  exact ⟨⟨fun s hs => absurd (htexts ▸ hs) List.not_mem_nil, fun _ => isPlain_referenceChain c hc⟩, htexts⟩

/-- The declaration of an instance whose texts are mute. -/
theorem isMute_of_declare? (hfaultless : Faultless .standard t) (hi : i ∈ t.instances)
    (hd : declare? .standard t i = some d) (hmute : ∀ s ∈ shownTexts i, IsMute s)
    (hnumbers : ∀ s ∈ d.statements, ∀ n, ChainCall.replicas n ∈ s.chain → n.natAbs < numeralBound) :
    d.IsLabelled ∧ ∀ s ∈ d.statements, s.IsMute := by
  obtain ⟨hlabel, hframed⟩ := isFramed_of_declare? hfaultless hi hd
  obtain ⟨type, htype, hcalls, hconfig⟩ := exists_calls_of_declare? hd
  have hknown : (Registry.standard.find? i.resourceType).isSome := by rw [htype, Option.isSome_some]
  have hbounds : ∀ n ∈ keptReplicas i, n.natAbs < numeralBound := by
    intro n hn
    have hreplicas : ChainCall.replicas n ∈ configChain i type.category := by
      rw [configChain, replicasOf_calls]
      exact List.mem_append_right _ (List.mem_map_of_mem (Option.mem_toList.2 hn))
    obtain ⟨s, hs, hn⟩ := hconfig _ hreplicas
    exact hnumbers s hs n hn
  refine ⟨hlabel, fun s hs => ⟨hframed s hs, fun c hc => ?_⟩⟩
  rcases hcalls s hs c hc with hc | hc
  · exact isMute_configChain hfaultless hi hknown hmute hbounds c hc
  · exact (isMute_referenceChain c hc).1

/-- The number of replicas comes last in a configuration. -/
theorem exists_front (i : ResourceInstance) (category : ResourceCategory) :
    ∃ front, configChain i category = front ++ (keptReplicas i).toList.map ChainCall.replicas ∧
      ∀ c ∈ front, c.number? = none := by
  have hchain := replicasOf_calls i
  refine ⟨_, by rw [configChain, hchain], ?_⟩
  -- the numbers of all calls are those of the last, so that the calls before it have none
  have hnumbers : (configChain i category).filterMap ChainCall.number? = (keptReplicas i).toList :=
    replicas_configChain
  have hlast : ((keptReplicas i).toList.map ChainCall.replicas).filterMap ChainCall.number? =
      (keptReplicas i).toList := by
    rw [List.filterMap_map]
    exact List.filterMap_some
  rw [configChain, hchain, List.filterMap_append, hlast] at hnumbers
  rwa [List.append_left_eq_self, List.filterMap_eq_nil_iff] at hnumbers

/-! ## Statements -/

/-- Statements without references leave the links as they are, however they are cut. -/
theorem outline_configured (hindent : IsIndent indent) (hgap : IsGap gap)
    (hs : (serverStatement i type []).IsMute) (hr : r.Outlines names links positions) :
    ∃ r', (splitAll (· = ';') (Segment.piece indent ⟨gap, serverStatement i type []⟩)).foldlM Reading.apply r =
      .ok r' ∧ r'.Outlines names links positions := by
  rcases exists_front i type.category with ⟨front, hfront, hcount⟩
  have hchain : (serverStatement i type []).chain = configChain i type.category := List.append_nil _
  have hreferences : ∀ c ∈ (serverStatement i type []).chain, c.reference? = none := by
    rw [hchain, ← List.filterMap_eq_nil_iff]
    exact references_configChain
  exact hr.foldlM_unlinked fun f hf =>
    Or.inr (hs.fragments hgap hindent (hchain.trans hfront) hreferences hcount f hf)

namespace Lineup

/-- A statement with the references of an instance adds its links, when no semicolon cuts it. -/
theorem outline_linked (h : Lineup t l) (hi : i ∈ l) (hindent : IsIndent indent) {g : Segment} (hgap : IsGap g.gap)
    (hs : g.statement.IsMute) (htexts : ∀ c ∈ g.statement.chain, ∀ s ∈ c.texts, ';' ∉ s.toList)
    (hown : (table l l).lookup g.statement.name = some (place l i.id))
    (hreferences : g.statement.references = (referenceChain .standard t i.id).filterMap ChainCall.reference?)
    (hr : r.Outlines (l.map ResourceInstance.name) links (table l l)) :
    ∃ r', (splitAll (· = ';') (g.piece indent)).foldlM Reading.apply r = .ok r' ∧
      r'.Outlines (l.map ResourceInstance.name) (links ++ linksTo t l i) (table l l) := by
  obtain ⟨hwhole, hall, hreadable⟩ := hs.whole hgap hindent htexts
  obtain ⟨rest, howner⟩ : ∃ rest, owner (g.gap ++ stem indent g.statement) = some (g.statement.name, rest) :=
    owner_stem hgap hs.toIsFramed
  have hlt : place l i.id < (l.map ResourceInstance.name).length := by
    rw [List.length_map]
    exact place_lt hi
  have hsources : (all referenceCall (g.gap ++ stem indent g.statement)).filterMap
      (fun name => (table l l).lookup name) = (t.incoming i.id).map fun c => place l c.source := by
    rw [hall, hreferences, h.lookup_references]
  rcases hr.apply_owned hreadable howner hown hlt hsources (h.place_not_mem_sources hi) with ⟨r', happly, hr'⟩
  rw [List.map_map] at hr'
  refine ⟨r', ?_, hr'⟩
  rw [Segment.piece, hwhole, List.foldlM_cons, happly]
  rfl

/-- The statements of an instance add its links. -/
theorem outline_instance (h : Lineup t l) (hi : i ∈ l) (hindent : IsIndent indent)
    (hmute : ∀ d, declare? .standard t i = some d → ∀ s ∈ d.statements, s.IsMute)
    (hwhole : Registry.standard.databaseOf? i = none → t.incoming i.id ≠ [] → ∀ s ∈ shownTexts i, ';' ∉ s.toList)
    (hr : r.Outlines (l.map ResourceInstance.name) links (table l l)) :
    ∃ r', ((segmentsOf t i).flatMap fun g => splitAll (· = ';') (g.piece indent)).foldlM Reading.apply r = .ok r' ∧
      r'.Outlines (l.map ResourceInstance.name) (links ++ linksTo t l i) (table l l) := by
  rcases h.exists_type hi with ⟨type, htype⟩
  have hname := h.name_ne_empty hi
  have hown := h.lookup_own (List.append_nil l).symm hi
  cases hdatabase : Registry.standard.databaseOf? i with
  | some database =>
    -- the server is cut wherever its texts say so, and the references stand in another statement
    have hstatements := hmute _ (declare?_of_database hname htype hdatabase)
    have hsecond := hstatements _ (List.mem_cons_of_mem _ List.mem_cons_self)
    have hbreak : IsGap ['\n'] := by decide
    obtain ⟨r₁, hserver, hr₁⟩ := outline_configured hindent isGap_breaks (hstatements _ List.mem_cons_self) hr
    obtain ⟨r₂, hreferences, hr₂⟩ := h.outline_linked (g := ⟨['\n'], databaseStatement t i database⟩) hi hindent
      hbreak hsecond (fun c hc s hs => absurd ((isMute_referenceChain c hc).2 ▸ hs) List.not_mem_nil)
      (h.lookup_database hi hdatabase) rfl hr₁
    refine ⟨r₂, ?_, hr₂⟩
    rw [segmentsOf_of_database hname htype hdatabase, List.flatMap_cons, List.flatMap_singleton, List.foldlM_append]
    exact Except.bind_eq_ok_iff.2 ⟨r₁, hserver, hreferences⟩
  | none =>
    have hstatement := hmute _ (declare?_of_no_database hname htype hdatabase) _ List.mem_cons_self
    rw [segmentsOf_of_no_database hname htype hdatabase, List.flatMap_singleton]
    by_cases hincoming : t.incoming i.id = []
    · -- nothing is lost, wherever the statement is cut
      have hnone : referenceChain .standard t i.id = [] := by rw [referenceChain, hincoming, List.flatMap_nil]
      have hlinks : linksTo t l i = [] := by rw [linksTo, hincoming, List.map_nil]
      rw [hnone] at hstatement ⊢
      rw [hlinks, List.append_nil]
      exact outline_configured hindent isGap_breaks hstatement hr
    · -- the references come after the configuration, and must not be cut off
      refine h.outline_linked hi hindent isGap_breaks hstatement ?_ hown (references_server i type _) hr
      intro c hc s hs
      rcases List.mem_append.1 hc with hc | hc
      · rcases mem_texts_configChain h.faultless (h.mem i hi) (h.known i hi) c hc s hs with hs | hs
        · exact hwhole hdatabase hincoming s hs
        · exact not_mem_of_isDigit hs (by decide)
      · exact absurd ((isMute_referenceChain c hc).2 ▸ hs) List.not_mem_nil

/-- All statements together add the links of all instances. -/
theorem outline_statements (h : Lineup t l) (hindent : IsIndent indent)
    (hmute : ∀ i ∈ l, ∀ d, declare? .standard t i = some d → ∀ s ∈ d.statements, s.IsMute)
    (hwhole : ∀ i ∈ l, Registry.standard.databaseOf? i = none → t.incoming i.id ≠ [] →
      ∀ s ∈ shownTexts i, ';' ∉ s.toList) (hpart : ∀ i ∈ part, i ∈ l)
    (hr : r.Outlines (l.map ResourceInstance.name) links (table l l)) :
    ∃ r', ((part.flatMap (segmentsOf t)).flatMap fun g =>
        splitAll (· = ';') (g.piece indent)).foldlM Reading.apply r = .ok r' ∧
      r'.Outlines (l.map ResourceInstance.name) (links ++ part.flatMap (linksTo t l)) (table l l) := by
  induction part generalizing r links with
  | nil =>
    rw [List.flatMap_nil, List.flatMap_nil, List.flatMap_nil, List.append_nil]
    exact ⟨r, rfl, hr⟩
  | cons i part ih =>
    have hi := hpart i List.mem_cons_self
    rcases h.outline_instance hi hindent (hmute i hi) (hwhole i hi) hr with ⟨r₁, hinstance, hr₁⟩
    rcases ih (fun j hj => hpart j (List.mem_cons_of_mem i hj)) hr₁ with ⟨r₂, hrest, hr₂⟩
    rw [List.append_assoc, ← List.flatMap_cons] at hr₂
    refine ⟨r₂, ?_, hr₂⟩
    rw [List.flatMap_cons, List.flatMap_append, List.foldlM_append]
    exact Except.bind_eq_ok_iff.2 ⟨r₁, hinstance, hrest⟩

/-- The names and links of the sketch that is read back. -/
theorem exists_outline (h : Lineup t l) {ordered : List ResourceInstance}
    (hdeclared : ordered.filterMap (declare? .standard t) = l.filterMap (declare? .standard t))
    (hchars : ∀ c ∈ directives o (Registry.standard.requiredPackages
      (ordered.map ResourceInstance.resourceType)), isHeadingChar c = true)
    (hmute : ∀ i ∈ l, ∀ d, declare? .standard t i = some d → d.IsLabelled ∧ ∀ s ∈ d.statements, s.IsMute)
    (hread : ∀ r : Reading, r.Outlines (l.map ResourceInstance.name) [] (table l l) →
      ∃ r', ((l.flatMap (segmentsOf t)).flatMap fun g =>
          splitAll (· = ';') (g.piece o.indent.toList)).foldlM Reading.apply r = .ok r' ∧
        r'.Outlines (l.map ResourceInstance.name) links (table l l)) :
    ∃ s, Sketch.ofAppHost .standard (render .standard t o ordered) = .ok s ∧
      s.drafts.map Draft.name = l.map ResourceInstance.name ∧ ∀ e, e ∈ s.links ↔ e ∈ links := by
  have hinert : ∀ i ∈ l, ∀ d, declare? .standard t i = some d → d.IsInert := by
    intro i hi d hd
    obtain ⟨hlabel, hstatements⟩ := hmute i hi d hd
    exact ⟨hlabel, fun s hs => (hstatements s hs).inert⟩
  have houtline : ∀ r : Reading, r.IsAt (l.map namedDraft) [] (table l l) →
      r.Outlines (l.map ResourceInstance.name) [] (table l l) := by
    intro r hr
    have h := hr.outlines
    rwa [List.map_map] at h
  rcases h.exists_reading hdeclared hchars hinert fun r hr => hread r (houtline r hr) with
    ⟨r', s, hs, hr', hdrafts, hlinks⟩
  exact ⟨s, hs, by rw [hdrafts, hr'.names_eq], fun e => by rw [hlinks, hr'.mem_links]⟩

end Lineup

end AppHost

/-! ## Connections by name -/

variable {t : Topology} {s : Sketch} {o : RenderOptions} {a : Artifacts}

/-- The names at the two ends of each connection. -/
def Topology.namePairs (t : Topology) : List (String × String) :=
  t.connections.filterMap fun c => do
    let source ← t.find? c.source
    let target ← t.find? c.target
    return (source.name, target.name)

theorem Topology.mem_namePairs {e : String × String} : e ∈ t.namePairs ↔ ∃ c ∈ t.connections,
    ∃ source target, t.find? c.source = some source ∧ t.find? c.target = some target ∧
      (source.name, target.name) = e := by
  simp [Topology.namePairs, List.mem_filterMap, Option.bind_eq_some_iff]

namespace Sketch

/-- Links between instances of a sketch are its connections. -/
theorem mem_namePairs_imported
    (hlinks : ∀ link ∈ s.links, ∃ d d', s.drafts[link.1]? = some d ∧ s.drafts[link.2]? = some d')
    {e : String × String} : e ∈ (s.imported []).topology.namePairs ↔ ∃ link ∈ s.links, ∃ d d',
      s.drafts[link.1]? = some d ∧ s.drafts[link.2]? = some d' ∧ (d.name, d'.name) = e := by
  rw [Topology.mem_namePairs, connections_imported]
  simp only [List.mem_map, exists_exists_and_eq_and]
  refine exists_congr fun link => and_congr_right fun hlink => ?_
  obtain ⟨d, d', hd, hd'⟩ := hlinks link hlink
  have hsource : (connection ((List.range s.drafts.length).map idAt) link).source = idAt link.1 :=
    getD_idAt (List.getElem?_eq_some_iff.1 hd).1
  have htarget : (connection ((List.range s.drafts.length).map idAt) link).target = idAt link.2 :=
    getD_idAt (List.getElem?_eq_some_iff.1 hd').1
  rw [hsource, htarget, find?_imported hd, find?_imported hd', hd, hd']
  simp [Draft.withId]

end Sketch

/-! ## Generated code -/

open AppHost Catalog Validation

namespace AppHost.Lineup

variable {l : List ResourceInstance}

theorem mem_links_iff (h : Lineup t l) {link : Nat × Nat} : link ∈ l.flatMap (linksTo t l) ↔
    ∃ c ∈ t.connections, (place l c.source, place l c.target) = link := by
  rw [List.mem_flatMap]
  constructor
  · rintro ⟨target, -, hmem⟩
    rcases List.mem_map.1 hmem with ⟨c, hc, rfl⟩
    rcases List.mem_filter.1 hc with ⟨hconnection, hid⟩
    exact ⟨c, hconnection, by rw [of_decide_eq_true hid]⟩
  · rintro ⟨c, hc, rfl⟩
    rcases h.exists_target hc with ⟨target, htarget, hid⟩
    refine ⟨target, htarget, List.mem_map.2 ⟨c, List.mem_filter.2 ⟨hc, decide_eq_true hid.symm⟩, ?_⟩⟩
    rw [hid]

/-- What is linked by place is connected by name. -/
theorem mem_namePairs_iff (h : Lineup t l) (hd : t.DistinctIds)
    (hnames : s.drafts.map Draft.name = l.map ResourceInstance.name)
    (hlinks : ∀ e, e ∈ s.links ↔ e ∈ l.flatMap (linksTo t l)) (e : String × String) :
    e ∈ (s.imported []).topology.namePairs ↔ e ∈ t.namePairs := by
  have hdraft : ∀ i ∈ l, ∃ d, s.drafts[place l i.id]? = some d ∧ d.name = i.name := by
    intro i hi
    have hname : (s.drafts.map Draft.name)[place l i.id]? = some i.name := by
      rw [hnames, List.getElem?_map, h.getElem?_place hi]
      rfl
    rw [List.getElem?_map] at hname
    exact Option.map_eq_some_iff.1 hname
  -- the ends of a connection as they were, and as they are read back
  have hends : ∀ c ∈ t.connections, ∃ source target d d',
      t.find? c.source = some source ∧ t.find? c.target = some target ∧
        s.drafts[place l c.source]? = some d ∧ s.drafts[place l c.target]? = some d' ∧
          (d.name, d'.name) = (source.name, target.name) := by
    intro c hc
    obtain ⟨source, hsource, hsid, -⟩ := h.exists_source hc
    obtain ⟨target, htarget, htid⟩ := h.exists_target hc
    obtain ⟨d, hd₁, hname⟩ := hdraft source hsource
    obtain ⟨d', hd₂, hname'⟩ := hdraft target htarget
    exact ⟨source, target, d, d', (Topology.find?_eq_some_iff hd).2 ⟨h.mem source hsource, hsid⟩,
      (Topology.find?_eq_some_iff hd).2 ⟨h.mem target htarget, htid⟩, hsid ▸ hd₁, htid ▸ hd₂, by rw [hname, hname']⟩
  -- links are connections by place, whatever their order
  have hmem : ∀ link, link ∈ s.links ↔ ∃ c ∈ t.connections, (place l c.source, place l c.target) = link :=
    fun link => (hlinks link).trans h.mem_links_iff
  rw [Sketch.mem_namePairs_imported, Topology.mem_namePairs]
  · simp only [hmem, exists_exists_and_eq_and]
    refine exists_congr fun c => and_congr_right fun hc => ?_
    obtain ⟨source, target, d, d', hsource, htarget, hd₁, hd₂, hnames⟩ := hends c hc
    simp [hsource, htarget, hd₁, hd₂, hnames]
  · intro link hlink
    obtain ⟨c, hc, rfl⟩ := (hmem link).1 hlink
    obtain ⟨-, -, d, d', -, -, hd₁, hd₂, -⟩ := hends c hc
    exact ⟨d, d', hd₁, hd₂⟩

end AppHost.Lineup

theorem isMute_of_compile
    (hmute : ∀ i ∈ t.instances, (Registry.standard.find? i.resourceType).isSome → ∀ s ∈ shownTexts i, IsMute s)
    (hok : t.compile .standard o = .ok a) (hblocked : a.isBlocked = false) :
    ∀ i ∈ t.sequence.ordered, ∀ d, declare? .standard t i = some d →
      d.IsLabelled ∧ ∀ s ∈ d.statements, s.IsMute := by
  rcases compile_unblocked_iff.1 ⟨hok, hblocked⟩ with ⟨hfaultless, hwritable, rfl⟩
  intro i hi d hdeclare
  have hmem := Topology.mem_of_mem_ordered hi
  refine isMute_of_declare? hfaultless hmem hdeclare (hmute i hmem (isSome_find?_of_declare? hdeclare))
    fun s hs n hn => ?_
  exact hwritable.numbers n (mem_numbers (List.mem_filterMap.2 ⟨i, hi, hdeclare⟩) hs hn)

/-- The AppHost of a topology with mute texts is read with the links that its statements are read with. -/
theorem exists_reread (hversion : o.aspireVersion = RenderOptions.standard.aspireVersion) (hd : t.DistinctIds)
    (hmute : ∀ i ∈ t.instances, (Registry.standard.find? i.resourceType).isSome → ∀ s ∈ shownTexts i, IsMute s)
    (hok : t.compile .standard o = .ok a) (hblocked : a.isBlocked = false) {l : List ResourceInstance}
    (hl : l = knownOnes t.sequence.ordered) {links : List (Nat × Nat)}
    (hread : ∀ r : Reading, r.Outlines (l.map ResourceInstance.name) [] (table l l) →
      ∃ r', ((l.flatMap (segmentsOf t)).flatMap fun g =>
          Text.splitAll (· = ';') (g.piece o.indent.toList)).foldlM Reading.apply r = .ok r' ∧
        r'.Outlines (l.map ResourceInstance.name) links (table l l)) (fileName : String) :
    ∃ s : Sketch, Format.appHost.read .standard [] fileName a.appHost = .ok (s.imported []) ∧
      s.drafts.map Draft.name = l.map ResourceInstance.name ∧ ∀ e, e ∈ s.links ↔ e ∈ links := by
  have hdeclarations := isMute_of_compile hmute hok hblocked
  rcases compile_unblocked_iff.1 ⟨hok, hblocked⟩ with ⟨hfaultless, -, rfl⟩
  have hlineup : Lineup t l := hl ▸ hfaultless.lineup hd
  have hdeclared : t.sequence.ordered.filterMap (declare? .standard t) = l.filterMap (declare? .standard t) :=
    hl ▸ (filterMap_knownOnes fun _ => declare?_of_unknown).symm
  have hmem : ∀ i ∈ l, i ∈ t.sequence.ordered := fun i hi => (List.mem_filter.1 (hl ▸ hi)).1
  obtain ⟨s, hs, hnames, hlinks⟩ := hlineup.exists_outline hdeclared (isHeadingChar_directives hversion _)
    (fun i hi => hdeclarations i (hmem i hi)) hread
  refine ⟨s, ?_, hnames, hlinks⟩
  have hsketch : Format.appHost.sketch .standard fileName
      (Artifacts.ofOrdered .standard o t t.sequence.ordered).appHost = .ok s := hs
  exact Format.read_eq hsketch

/-- Texts that leave the connections as they are: no mark in any of them, and no semicolon before the
references of a statement. -/
structure IsReconnectable (t : Topology) : Prop where
  mute : ∀ i ∈ t.instances, (Registry.standard.find? i.resourceType).isSome → ∀ s ∈ shownTexts i, IsMute s
  whole : ∀ i ∈ t.instances, Registry.standard.databaseOf? i = none → t.incoming i.id ≠ [] →
    ∀ s ∈ shownTexts i, ';' ∉ s.toList

/-- The pairs of names that are connected are read back from an AppHost, if the texts of its configurations
hold no mark and cut no reference off. -/
theorem connections_reread (hversion : o.aspireVersion = RenderOptions.standard.aspireVersion)
    (hd : t.DistinctIds) (hshown : IsReconnectable t) (hok : t.compile .standard o = .ok a)
    (hblocked : a.isBlocked = false) (fileName : String) :
    ∃ found, Format.appHost.read .standard [] fileName a.appHost = .ok found ∧
      ∀ e, e ∈ found.topology.namePairs ↔ e ∈ t.namePairs := by
  have hlineup := (compile_unblocked_iff.1 ⟨hok, hblocked⟩).1.lineup hd
  have hmute := isMute_of_compile hshown.mute hok hblocked
  have hstatements : ∀ i ∈ knownOnes t.sequence.ordered, ∀ d, declare? .standard t i = some d →
      ∀ s ∈ d.statements, s.IsMute := fun i hi d hd => (hmute i (List.mem_filter.1 hi).1 d hd).2
  have hwhole := fun i hi => hshown.whole i (hlineup.mem i hi)
  obtain ⟨s, hread, hnames, hlinks⟩ := exists_reread hversion hd hshown.mute hok hblocked rfl
    (fun r hr => hlineup.outline_statements (isIndent_indent o) hstatements hwhole (fun i hi => hi) hr) fileName
  exact ⟨s.imported [], hread, hlineup.mem_namePairs_iff hd hnames hlinks⟩

/-- A service that uses a cache, each with a setting. -/
def wired (onCache onService : String) : Topology where
  instances := [
    ⟨"cache", "redis", "cache", none, ⟨[⟨"SETTINGS", onCache⟩], [], [], none, none⟩⟩,
    ⟨"api", "dotnet-project", "api", none, ⟨[⟨"SETTINGS", onService⟩], [], [], none, none⟩⟩]
  connections := [.make "" "cache" "api" .reference]

theorem wired_distinctIds (onCache onService : String) : (wired onCache onService).DistinctIds := by
  have hnodup : ["cache", "api"].Nodup := by decide
  exact hnodup

theorem wired_compile : ∀ texts ∈ [("Host=h;Password=p", "a, b"), ("", "Host=h;Password=p")],
    (wired texts.1 texts.2).compile .standard .standard =
      .ok (.ofOrdered .standard .standard (wired texts.1 texts.2) (wired texts.1 texts.2).sequence.ordered) := by
  have hpasses : ∀ texts ∈ [("Host=h;Password=p", "a, b"), ("", "Host=h;Password=p")],
      PassesRules .standard (wired texts.1 texts.2) ∧ (wired texts.1 texts.2).sequence.unsequenced = [] ∧
        Writable .standard .standard (wired texts.1 texts.2) (wired texts.1 texts.2).sequence.ordered := by
    decide +kernel
  intro texts htexts
  obtain ⟨hrules, hsequenced, hwritable⟩ := hpasses texts htexts
  have hacyclic := (Topology.unsequenced_eq_nil_iff (wired_distinctIds texts.1 texts.2)).1 hsequenced
  exact compile_of_passesRules hrules hacyclic hwritable

/-- A semicolon does no harm where there is no reference to cut off. -/
theorem wired_reread : ∃ a found, (wired "Host=h;Password=p" "a, b").compile .standard .standard = .ok a ∧
    Format.appHost.read .standard [] "AppHost.cs" a.appHost = .ok found ∧
      ∀ e, e ∈ found.topology.namePairs ↔ e ∈ (wired "Host=h;Password=p" "a, b").namePairs := by
  have hok := wired_compile ("Host=h;Password=p", "a, b") (by simp)
  have hshown : IsReconnectable (wired "Host=h;Password=p" "a, b") := by
    constructor
    case mute => decide
    case whole => decide
  obtain ⟨found, hread, hpairs⟩ := connections_reread rfl (wired_distinctIds _ _) hshown hok isBlocked_ofOrdered
    "AppHost.cs"
  exact ⟨_, found, hok, hread, hpairs⟩

/-- A connection string cuts the references of its statement off. -/
theorem wired_lost : ∃ a found, (wired "" "Host=h;Password=p").DistinctIds ∧
    (wired "" "Host=h;Password=p").compile .standard .standard = .ok a ∧ a.isBlocked = false ∧
      Format.appHost.read .standard [] "AppHost.cs" a.appHost = .ok found ∧
        ("cache", "api") ∈ (wired "" "Host=h;Password=p").namePairs ∧
          ("cache", "api") ∉ found.topology.namePairs := by
  have hok := wired_compile ("", "Host=h;Password=p") (by simp)
  have hmute : ∀ i ∈ (wired "" "Host=h;Password=p").instances, (Registry.standard.find? i.resourceType).isSome →
      ∀ s ∈ shownTexts i, IsMute s := by decide
  -- the reference stands in a fragment that begins inside the text
  have hfragments : ∀ f ∈ ((knownOnes (wired "" "Host=h;Password=p").sequence.ordered).flatMap
      (segmentsOf (wired "" "Host=h;Password=p"))).flatMap fun g =>
        Text.splitAll (· = ';') (g.piece RenderOptions.standard.indent.toList),
      (owner f).isNone ∨ Text.Scan.all referenceCall f = [] ∧ Text.Scan.first? replicasCall f = none := by
    decide +kernel
  obtain ⟨s, hread, -, hlinks⟩ := exists_reread rfl (wired_distinctIds _ _) hmute hok isBlocked_ofOrdered rfl
    (fun r hr => hr.foldlM_unlinked fun f hf => (hfragments f hf).imp Option.isNone_iff_eq_none.1 fun h =>
      ⟨h.1, isReadable_of_eq_none h.2⟩) "AppHost.cs"
  have hnone : s.links = [] := List.eq_nil_iff_forall_not_mem.2 fun e he => List.not_mem_nil ((hlinks e).1 he)
  refine ⟨_, _, wired_distinctIds _ _, hok, isBlocked_ofOrdered, hread, by decide, ?_⟩
  rw [Sketch.mem_namePairs_imported]
  · simp [hnone]
  · simp [hnone]

end HostTopology
