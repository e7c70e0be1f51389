import HostTopology.Document.Printer
import HostTopology.Proofs.Characters
import HostTopology.Proofs.Shapes
import HostTopology.Proofs.Trees

/-!
# Saving — which topologies survive being saved

A topology is saved as a document and loaded from one. Printer and reader are separate definitions;
this file tells exactly when the second undoes the first:

* `Topology.IsSavable` — every connection has an id, and ports and volumes have parts that can be
  told apart in one text;
* `document_toDocument` — what the reader finds in the data of a document;
* `ofDocument_toDocument_iff`, `isSavable_of_ofDocument` — the data is read as the topology exactly if
  this is savable, and nothing else is ever read;
* `reload_iff_isSavable` — the same for texts.
-/

namespace HostTopology

/-! ## Savable topologies -/

/-- The container comes after the last colon, and a host before it is not empty. -/
def PortMapping.IsSavable (p : PortMapping) : Prop :=
  ':' ∉ p.container.toList ∧ p.host ≠ some ""

/-- The target comes after the last colon, and nothing is empty. -/
def VolumeMount.IsSavable (v : VolumeMount) : Prop :=
  v.source ≠ "" ∧ v.target ≠ "" ∧ ':' ∉ v.target.toList

structure ResourceInstance.IsSavable (i : ResourceInstance) : Prop where
  ports : ∀ p ∈ i.config.ports, p.IsSavable
  volumes : ∀ v ∈ i.config.volumes, v.IsSavable

structure Topology.IsSavable (t : Topology) : Prop where
  instances : ∀ i ∈ t.instances, i.IsSavable
  connections : ∀ c ∈ t.connections, c.id ≠ ""

namespace Document

open Shape Yaml

variable {i : ResourceInstance} {c : Connection} {p : PortMapping} {v : VolumeMount} {t : Topology}

/-! ## Ports and volumes -/

theorem isSavable_parsePort (text : String) : (parsePort text).IsSavable := by
  rw [parsePort]
  rcases Text.cutLast_cases ':' text.toList with ⟨hnot, hcut⟩ | ⟨before, after, -, hnot, hcut⟩
  · simpa [hcut, PortMapping.IsSavable] using hnot
  · have hhost : (if before = [] then none else some (String.ofList before)) ≠ some "" := by
      split_ifs with hempty
      · simp
      · simpa using hempty
    simp only [hcut]
    exact ⟨by simpa using hnot, hhost⟩

theorem parsePort_portText_iff : parsePort (portText p) = p ↔ p.IsSavable := by
  constructor
  · intro h
    exact h ▸ isSavable_parsePort _
  · rintro ⟨hcolon, hhost⟩
    rcases p with ⟨container, host⟩
    cases host with
    | none => simp [portText, parsePort, Text.cutLast_of_not_mem hcolon]
    | some host =>
      have hne : host ≠ "" := by simpa using hhost
      have htext : (portText ⟨container, some host⟩).toList = host.toList ++ ':' :: container.toList := by
        simp [portText, hne]
      simp [parsePort, htext, Text.cutLast_append_cons host.toList hcolon, hne]

theorem isSavable_of_parseVolume? {text : String} (h : parseVolume? text = some v) : v.IsSavable := by
  rw [parseVolume?] at h
  split at h
  · rename_i s source f target hcut
    cases h
    rcases Text.cutLast_cases ':' text.toList with ⟨-, hnone⟩ | ⟨before, after, -, hnot, hsome⟩
    · simp [hnone] at hcut
    · rcases Prod.mk.inj (hsome.symm.trans hcut) with ⟨-, rfl⟩
      exact ⟨by simp, by simp, by simpa using hnot⟩
  · cases h

theorem parseVolume?_volumeText_iff : parseVolume? (volumeText v) = some v ↔ v.IsSavable := by
  constructor
  · exact isSavable_of_parseVolume?
  · rintro ⟨hsource, htarget, hcolon⟩
    rcases v with ⟨source, target⟩
    have htext : (volumeText ⟨source, target⟩).toList = source.toList ++ ':' :: target.toList := by
      simp [volumeText]
    have hcut := Text.cutLast_append_cons source.toList hcolon
    rcases List.exists_cons_of_ne_nil (by simpa using hsource : source.toList ≠ []) with ⟨s, ss, hs⟩
    rcases List.exists_cons_of_ne_nil (by simpa using htarget : target.toList ≠ []) with ⟨f, fs, hf⟩
    simp only [parseVolume?, htext, hcut]
    simp [hs, hf, ← String.toList_inj]

theorem isSavable_of_mountsOf {texts : List String} {volumes : List VolumeMount}
    (h : mountsOf texts = .ok volumes) : ∀ v ∈ volumes, v.IsSavable := by
  induction texts generalizing volumes with
  | nil =>
    cases h
    exact fun v hv => absurd hv List.not_mem_nil
  | cons text rest ih =>
    -- a text that cannot be parsed ends the reading
    cases hparse : parseVolume? text with
    | none => simp [mountsOf, hparse] at h
    | some w =>
      cases hrest : mountsOf rest with
      | error e => simp [mountsOf, hparse, hrest, Functor.map, Except.map] at h
      | ok ws =>
        obtain rfl : w :: ws = volumes := by simpa [mountsOf, hparse, hrest, Functor.map, Except.map] using h
        intro v hv
        rcases List.mem_cons.1 hv with rfl | hv
        · exact isSavable_of_parseVolume? hparse
        · exact ih hrest v hv

theorem mountsOf_map_volumeText {volumes : List VolumeMount} (h : ∀ v ∈ volumes, v.IsSavable) :
    mountsOf (volumes.map volumeText) = .ok volumes := by
  induction volumes with
  | nil => rfl
  | cons v rest ih =>
    have hv := parseVolume?_volumeText_iff.2 (h v List.mem_cons_self)
    have hrest := ih fun w hw => h w (List.mem_cons_of_mem v hw)
    simp [mountsOf, hv, hrest, Functor.map, Except.map]

/-! ## Instances -/

/-- What the entry of an instance holds. -/
def entryOf (i : ResourceInstance) : InstanceEntry :=
  ⟨i.id, i.resourceType, i.name, i.database, i.config.persistent, i.config.envVars,
    i.config.ports.map portText, i.config.volumes.map volumeText, i.config.replicas⟩

theorem isSavable_of_toInstance {e : InstanceEntry} (h : e.toInstance = .ok i) : i.IsSavable := by
  rcases Except.bind_eq_ok_iff.1 h with ⟨volumes, hvolumes, hi⟩
  obtain rfl := Except.ok.inj hi
  refine ⟨?_, isSavable_of_mountsOf hvolumes⟩
  intro p hp
  rcases List.mem_map.1 hp with ⟨text, -, rfl⟩
  exact isSavable_parsePort text

theorem toInstance_entryOf_iff : (entryOf i).toInstance = .ok i ↔ i.IsSavable := by
  constructor
  · exact isSavable_of_toInstance
  · rintro ⟨hports, hvolumes⟩
    have hparse : (i.config.ports.map portText).map parsePort = i.config.ports := by
      have hid : ∀ p ∈ i.config.ports, (parsePort ∘ portText) p = id p :=
        fun p hp => parsePort_portText_iff.2 (hports p hp)
      simpa using List.map_congr_left hid
    refine Except.bind_eq_ok_iff.2 ⟨i.config.volumes, mountsOf_map_volumeText hvolumes, ?_⟩
    rw [entryOf, hparse]

theorem isSavable_of_instancesOf {entries : List InstanceEntry} {instances : List ResourceInstance}
    (h : instancesOf entries = .ok instances) : ∀ i ∈ instances, i.IsSavable := by
  induction entries generalizing instances with
  | nil =>
    cases h
    exact fun i hi => absurd hi List.not_mem_nil
  | cons e rest ih =>
    rcases Except.bind_eq_ok_iff.1 h with ⟨j, hj, h⟩
    rcases Except.bind_eq_ok_iff.1 h with ⟨js, hjs, h⟩
    obtain rfl := Except.ok.inj h
    intro i hi
    rcases List.mem_cons.1 hi with rfl | hi
    · exact isSavable_of_toInstance hj
    · exact ih hjs i hi

theorem instancesOf_map_entryOf {instances : List ResourceInstance} (h : ∀ i ∈ instances, i.IsSavable) :
    instancesOf (instances.map entryOf) = .ok instances := by
  induction instances with
  | nil => rfl
  | cons i rest ih =>
    have hi := toInstance_entryOf_iff.2 (h i List.mem_cons_self)
    have hrest := ih fun j hj => h j (List.mem_cons_of_mem i hj)
    exact Except.bind_eq_ok_iff.2 ⟨i, hi, Except.bind_eq_ok_iff.2 ⟨rest, hrest, rfl⟩⟩

/-! ## Fields -/

section Fields

variable {α β : Type} {read : Shape.Reader β} {name key s : String} {entries : List (String × Tree)}

theorem required_text (h : entries.lookup name = some (.text s)) :
    required name (text true) (Tree.valueEntries entries) = .ok s := by
  rw [required, Tree.lookupEntry_valueEntries, h]
  rfl

theorem withDefault_text (absent : String) (h : entries.lookup name = some (.text s)) :
    withDefault name absent (text true) (Tree.valueEntries entries) = .ok s := by
  rw [withDefault, Tree.lookupEntry_valueEntries, h]
  rfl

theorem lookup_entryIfSome {value : Option α} {tree : α → Tree} :
    (entryIfSome key value tree).lookup name = if name = key then value.map tree else none := by
  have hkey : (name == key) = decide (name = key) := rfl
  cases value <;> by_cases h : name = key <;> simp [entryIfSome, List.lookup_cons, hkey, h]

theorem lookup_entryUnlessEmpty {items : List α} {tree : List α → Tree} :
    (entryUnlessEmpty key items tree).lookup name =
      if name = key ∧ items ≠ [] then some (tree items) else none := by
  have hkey : (name == key) = decide (name = key) := rfl
  cases items <;> by_cases h : name = key <;> simp [entryUnlessEmpty, List.lookup_cons, hkey, h]

theorem fst_of_mem_entryIfSome {value : Option α} {tree : α → Tree} {e : String × Tree}
    (h : e ∈ entryIfSome key value tree) : e.1 = key := by
  cases value with
  | none => exact absurd h List.not_mem_nil
  | some a => rw [List.mem_singleton.1 h]

theorem fst_of_mem_entryUnlessEmpty {items : List α} {tree : List α → Tree} {e : String × Tree}
    (h : e ∈ entryUnlessEmpty key items tree) : e.1 = key := by
  rw [entryUnlessEmpty] at h
  split_ifs at h
  · exact absurd h List.not_mem_nil
  · rw [List.mem_singleton.1 h]

/-- A value that may be missing is read as one that may be missing. -/
theorem withDefault_optional (read : Shape.Reader β) {value : Option β} {tree : β → Tree}
    (hlookup : entries.lookup name = value.map tree)
    (hread : ∀ b, optional read (tree b).value = .ok (some b)) :
    withDefault name none (optional read) (Tree.valueEntries entries) = .ok value := by
  cases value with
  | none => simp [withDefault, Tree.lookupEntry_valueEntries, hlookup]
  | some b => simp [withDefault, Tree.lookupEntry_valueEntries, hlookup, hread]

/-- A list that is left out where it is empty is read as the list. -/
theorem withDefault_unlessEmpty (read : Shape.Reader (List β)) (tree : List α → Tree) {items : List α}
    {g : α → β} (hlookup : entries.lookup name = if items ≠ [] then some (tree items) else none)
    (hread : read (tree items).value = .ok (items.map g)) :
    withDefault name [] read (Tree.valueEntries entries) = .ok (items.map g) := by
  cases items with
  | nil => simp [withDefault, Tree.lookupEntry_valueEntries, hlookup]
  | cons a rest =>
    have hsome : entries.lookup name = some (tree (a :: rest)) := by simpa using hlookup
    simpa [withDefault, Tree.lookupEntry_valueEntries, hsome, Checked.under_eq_ok_iff] using hread

theorem known_valueEntries {known : List String} (h : ∀ e ∈ entries, e.1 ∈ known) :
    ∀ e ∈ Tree.valueEntries entries, ∃ name ∈ known, e.1 = .text name := by
  intro e he
  rw [Tree.valueEntries_eq_map] at he
  rcases List.mem_map.1 he with ⟨field, hfield, rfl⟩
  exact ⟨field.1, h field hfield, rfl⟩

end Fields

/-! ## Documents -/

theorem value_list {α : Type} (l : List α) (tree : α → Tree) :
    (Tree.list (l.map tree)).value = .list (l.map fun a => (tree a).value) := by
  simp [Tree.value, Tree.valueAll_eq_map]

theorem list_value_eq_ok {α β : Type} {read : Shape.Reader β} {tree : α → Tree} {g : α → β} {l : List α}
    (h : ∀ a ∈ l, read (tree a).value = .ok (g a)) : list read (Tree.list (l.map tree)).value = .ok (l.map g) := by
  rw [value_list]
  exact list_map_eq_ok h

theorem envEntry_value (v : EnvVar) :
    envEntry (Tree.mapping [("key", .text v.key), ("value", .text v.value)]).value = .ok v :=
  closedRecord_eq_ok rfl (known_valueEntries (by simp))

theorem env_envTree (vars : List EnvVar) : env (envTree vars).value = .ok vars := by
  rw [envTree]
  split_ifs with hkeys
  · -- different keys make a mapping
    have hvalue : (Tree.mapping (vars.map fun v => (v.key, .text v.value))).value =
        .mapping ((vars.map fun v => (v.key, v.value)).map fun e => (.text e.1, .text e.2)) := by
      simp [Tree.value, Tree.valueEntries_eq_map]
    have hmapping := textMapping_eq_ok (vars.map fun v => (v.key, v.value)) (by
      simpa [Function.comp_def] using hkeys)
    simp only [env, hvalue, hmapping, Checked.under_ok]
    simp [Function.comp_def]
  · have hlist := list_value_eq_ok (l := vars) (g := fun v => v) fun v _ => envEntry_value v
    simp only [env, hlist, Checked.under_ok]
    simp [textMapping, Tree.value, Value.opened, Checked.fail, Checked.under]

/-- The fields of an instance in a document. -/
def instanceFields (i : ResourceInstance) : List (String × Tree) :=
  [("id", .text i.id), ("type", .text i.resourceType), ("name", .text i.name)]
    ++ entryIfSome "database" i.database .text
    ++ entryIfSome "persistent" i.config.persistent .bool
    ++ entryUnlessEmpty "env" i.config.envVars envTree
    ++ entryUnlessEmpty "ports" i.config.ports (fun ps => .list (ps.map fun p => .text (portText p)))
    ++ entryUnlessEmpty "volumes" i.config.volumes (fun vs => .list (vs.map fun v => .text (volumeText v)))
    ++ entryIfSome "replicas" i.config.replicas .int

theorem lookup_instanceFields (i : ResourceInstance) :
    (instanceFields i).lookup "id" = some (.text i.id) ∧
    (instanceFields i).lookup "type" = some (.text i.resourceType) ∧
    (instanceFields i).lookup "name" = some (.text i.name) ∧
    (instanceFields i).lookup "database" = i.database.map .text ∧
    (instanceFields i).lookup "persistent" = i.config.persistent.map .bool ∧
    (instanceFields i).lookup "env" =
      (if i.config.envVars ≠ [] then some (envTree i.config.envVars) else none) ∧
    (instanceFields i).lookup "ports" =
      (if i.config.ports ≠ [] then some (.list (i.config.ports.map fun p => .text (portText p))) else none) ∧
    (instanceFields i).lookup "volumes" =
      (if i.config.volumes ≠ [] then some (.list (i.config.volumes.map fun v => .text (volumeText v))) else none) ∧
    (instanceFields i).lookup "replicas" = i.config.replicas.map .int := by
  simp [instanceFields, List.lookup_append, List.lookup_cons, lookup_entryIfSome, lookup_entryUnlessEmpty]

theorem known_instanceFields {e : String × Tree} (he : e ∈ instanceFields i) :
    e.1 ∈ ["id", "type", "name", "database", "persistent", "env", "ports", "volumes", "replicas"] := by
  simp only [instanceFields, List.mem_append] at he
  rcases he with (((((he | he) | he) | he) | he) | he) | he
  · simp only [List.mem_cons, List.not_mem_nil, or_false] at he
    rcases he with rfl | rfl | rfl <;> simp
  · simp [fst_of_mem_entryIfSome he]
  · simp [fst_of_mem_entryIfSome he]
  · simp [fst_of_mem_entryUnlessEmpty he]
  · simp [fst_of_mem_entryUnlessEmpty he]
  · simp [fst_of_mem_entryUnlessEmpty he]
  · simp [fst_of_mem_entryIfSome he]

theorem list_texts {α : Type} (l : List α) (spell : α → String) :
    list (text true) (Tree.list (l.map fun a => .text (spell a))).value = .ok (l.map spell) :=
  list_value_eq_ok fun _ _ => rfl

theorem instanceEntry_instanceTree (i : ResourceInstance) :
    instanceEntry (instanceTree i).value = .ok (entryOf i) := by
  rcases lookup_instanceFields i with ⟨hid, htype, hname, hdatabase, hpersistent, henv, hports, hvolumes, hreplicas⟩
  -- what is left out on writing is read as the default
  have hid := required_text hid
  have htype := required_text htype
  have hname := withDefault_text "" hname
  have hdatabase := withDefault_optional (text true) hdatabase fun _ => rfl
  have hpersistent := withDefault_optional bool hpersistent fun _ => rfl
  have hreplicas := withDefault_optional int hreplicas fun _ => rfl
  have henv := withDefault_unlessEmpty env envTree (g := fun v => v) henv (by
    simpa using env_envTree i.config.envVars)
  have hports := withDefault_unlessEmpty (list (text true))
    (fun ps => .list (ps.map fun p => .text (portText p))) hports (list_texts i.config.ports portText)
  have hvolumes := withDefault_unlessEmpty (list (text true))
    (fun vs => .list (vs.map fun v => .text (volumeText v))) hvolumes (list_texts i.config.volumes volumeText)
  rw [List.map_id'] at henv
  have htree : (instanceTree i).value = .mapping (Tree.valueEntries (instanceFields i)) := rfl
  rw [htree]
  refine closedRecord_eq_ok ?_ (known_valueEntries fun e he => known_instanceFields he)
  simp only [hid, htype, hname, hdatabase, hpersistent, henv, hports, hvolumes, hreplicas, Checked.map_ok,
    Checked.seq_ok, entryOf]

theorem connectionEntry_connectionTree (c : Connection) :
    connectionEntry (connectionTree c).value = .ok (Connection.make c.id c.source c.target c.kind) := by
  have htext : ∀ s, text true (Tree.text s).value = .ok s := fun _ => rfl
  have hid : optional (text true) (Tree.text c.id).value = .ok (some c.id) := rfl
  have hkind : choice ConnectionKind.ofName? (Tree.text c.kind.name).value = .ok c.kind := by
    simp [choice, fromText, Tree.value, ConnectionKind.ofName?_name]
  refine closedRecord_eq_ok ?_ (known_valueEntries (by simp))
  simp [Tree.valueEntries, required, withDefault, Value.lookupEntry, htext, hid, hkind]

theorem document_toDocument (t : Topology) : document t.toDocument.value =
    .ok (t.instances.map entryOf, t.connections.map fun c => Connection.make c.id c.source c.target c.kind) := by
  have hversion : text true (Tree.text version).value = .ok version := rfl
  have hinstances := list_value_eq_ok (l := t.instances) fun i _ => instanceEntry_instanceTree i
  have hconnections := list_value_eq_ok (l := t.connections) fun c _ => connectionEntry_connectionTree c
  refine closedRecord_eq_ok ?_ (known_valueEntries (by simp))
  simp [Tree.valueEntries, withDefault, Value.lookupEntry, hversion, hinstances, hconnections]

/-! ## Connections -/

theorem id_ne_empty_of_connectionEntry {data : Value} (h : connectionEntry data = .ok c) : c.id ≠ "" := by
  rcases exists_of_closedRecord h with ⟨fields, hfields⟩
  rcases Checked.seq_eq_ok_iff.1 hfields with ⟨ofKind, kind, hkind, -, rfl⟩
  rcases Checked.seq_eq_ok_iff.1 hkind with ⟨ofTarget, target, htarget, -, rfl⟩
  rcases Checked.seq_eq_ok_iff.1 htarget with ⟨ofSource, source, hsource, -, rfl⟩
  rcases Checked.map_eq_ok_iff.1 hsource with ⟨id, -, rfl⟩
  exact Connection.id_make_ne_empty (id.getD "") source target kind

theorem id_ne_empty_of_document {data : Value} {entries : List InstanceEntry} {connections : List Connection}
    (h : document data = .ok (entries, connections)) : ∀ c ∈ connections, c.id ≠ "" := by
  rcases exists_of_closedRecord h with ⟨fields, hfields⟩
  rcases Checked.seq_eq_ok_iff.1 hfields with ⟨ofConnections, found, hconnections, hfound, hpair⟩
  rcases Checked.seq_eq_ok_iff.1 hconnections with ⟨ofInstances, instances, hinstances, -, rfl⟩
  rcases Checked.map_eq_ok_iff.1 hinstances with ⟨v, -, rfl⟩
  obtain ⟨rfl, rfl⟩ := Prod.mk.inj hpair
  intro c hc
  rcases withDefault_eq_ok_iff.1 hfound with ⟨-, rfl⟩ | ⟨list, -, hlist⟩
  · exact absurd hc List.not_mem_nil
  · rcases exists_of_list hlist c hc with ⟨entry, hentry⟩
    exact id_ne_empty_of_connectionEntry hentry

end Document

/-! ## Loading -/

namespace Topology

open Document

variable {t : Topology} {label : String}

/-- Whatever is read from a document can be saved. -/
theorem isSavable_of_ofDocument {data : Value} (h : ofDocument label data = .ok t) : t.IsSavable := by
  rw [ofDocument] at h
  split at h
  · cases h
  · rcases Except.bind_eq_ok_iff.1 h with ⟨v, -, h⟩
    split at h
    · cases h
    · split at h
      · cases h
      · cases h
      · rename_i entries connections hdocument
        rcases Except.bind_eq_ok_iff.1 h with ⟨instances, hinstances, h⟩
        obtain rfl := Except.ok.inj h
        exact ⟨isSavable_of_instancesOf hinstances, id_ne_empty_of_document hdocument⟩

theorem ofDocument_toDocument (h : t.IsSavable) : ofDocument label t.toDocument.value = .ok t := by
  have hversion : t.toDocument.value.entries?.map versionOf = some (.ok version) := rfl
  rcases Option.map_eq_some_iff.1 hversion with ⟨fields, hentries, hversion⟩
  have hconnections : (t.connections.map fun c => Connection.make c.id c.source c.target c.kind) = t.connections := by
    have hmake : ∀ c ∈ t.connections, Connection.make c.id c.source c.target c.kind = id c :=
      fun c hc => Connection.make_eq_self_iff.2 (h.connections c hc)
    simpa using List.map_congr_left hmake
  have hdocument := document_toDocument t
  rw [hconnections] at hdocument
  rw [ofDocument, hentries]
  simp only [hversion, hdocument, instancesOf_map_entryOf h.instances]
  rfl

theorem ofDocument_toDocument_iff : ofDocument label t.toDocument.value = .ok t ↔ t.IsSavable :=
  ⟨isSavable_of_ofDocument, ofDocument_toDocument⟩

theorem ofDocumentText_toDocumentText (h : t.toDocument.ReadsBack) :
    ofDocumentText label t.toDocumentText = ofDocument label t.toDocument.value := by
  rw [ofDocumentText, toDocumentText, h]

theorem isSavable_of_ofDocumentText {text : String} (h : ofDocumentText label text = .ok t) : t.IsSavable := by
  rw [ofDocumentText] at h
  split at h
  · exact isSavable_of_ofDocument h
  · cases h
  · cases h

/-- Where its text denotes the data, a saved topology is loaded unchanged exactly if it is savable. -/
theorem ofDocumentText_eq_ok_iff (h : t.toDocument.ReadsBack) :
    ofDocumentText label t.toDocumentText = .ok t ↔ t.IsSavable := by
  rw [ofDocumentText_toDocumentText h]
  exact ofDocument_toDocument_iff

/-- A topology is what its saved text is loaded as, exactly if it is savable; so every topology that was
once loaded stays the same. -/
theorem reload_iff_isSavable (h : t.toDocument.ReadsBack) (label : String) :
    (ofDocumentText label t.toDocumentText = .ok t ↔ t.IsSavable) ∧
      ((∃ source text, ofDocumentText source text = .ok t) → ofDocumentText label t.toDocumentText = .ok t) := by
  refine ⟨ofDocumentText_eq_ok_iff h, ?_⟩
  rintro ⟨source, text, hloaded⟩
  exact (ofDocumentText_eq_ok_iff h).2 (isSavable_of_ofDocumentText hloaded)

/-- A host and a source with colons, and a key that occurs twice. -/
def mounted : Topology where
  instances := [⟨"1", "redis", "c", none, ⟨[⟨"A", "x"⟩, ⟨"A", "y"⟩], [⟨"80", some "h:81"⟩], [⟨"c:x", "/y"⟩], none, none⟩⟩]
  connections := []

theorem mounted_text : mounted.toDocument.render = "\n".intercalate ["version: '1'", "instances:", "- id: '1'",
    "  type: redis", "  name: c", "  env:", "  - key: A", "    value: x", "  - key: A", "    value: y", "  ports:",
    "  - h:81:80", "  volumes:", "  - c:x:/y", "connections: []", ""] := by
  decide +kernel

theorem mounted_reload : ofDocumentText "saved" mounted.toDocumentText = .ok mounted := by
  have hreads : mounted.toDocument.ReadsBack := Yaml.Tree.readsBack_of_isValue mounted_text (by decide +kernel)
  have hsavable : mounted.IsSavable := by
    refine ⟨?_, by simp [mounted]⟩
    intro i hi
    obtain rfl := List.mem_singleton.1 hi
    exact ⟨by simp [PortMapping.IsSavable], by simp [VolumeMount.IsSavable]⟩
  exact (reload_iff_isSavable hreads "saved").1.2 hsavable

end Topology
end HostTopology
