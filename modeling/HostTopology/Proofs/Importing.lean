import HostTopology.Proofs.Blocks
import HostTopology.Proofs.Dependencies
import HostTopology.Proofs.Reading
import HostTopology.Proofs.Saving

/-!
# Importing — which imported topologies survive being saved

The readers of the three formats take more mounts than a saved topology can hold. Everything else that
they find can be saved:

* `Format.Keeps` — what a mount in a file of a format has to be like;
* `Draft.Fits` — ports that can be saved, and mounts that can be if the format keeps them;
* `fits_ofAppHost`, `fits_ofCompose`, `fits_ofDockerfile` — the drafts of each format fit: no step of a
  reader spoils what it has read;
* `reload_imported_iff` — an imported topology is loaded unchanged exactly if its mounts are kept.
-/

namespace HostTopology

/-! ## Mounts that are kept -/

/-- An AppHost can name any two texts. A compose file has no empty sources and no colons in targets,
and a Dockerfile has no mounts. -/
def Format.Keeps : Format → VolumeMount → Prop
  | .appHost, v => v.IsSavable
  | .compose, v => v.target ≠ ""
  | .dockerfile, _ => True

structure Draft.Fits (f : Format) (d : Draft) : Prop where
  ports : ∀ p ∈ d.config.ports, p.IsSavable
  volumes : ∀ v ∈ d.config.volumes, v.IsSavable ↔ f.Keeps v

namespace Sketch

variable {s : Sketch} {f : Format} {reserved : List String}

theorem mem_instances_imported {i : ResourceInstance} (h : i ∈ (s.imported reserved).topology.instances) :
    ∃ d ∈ s.drafts, i.config = d.config := by
  rcases List.mem_iff_getElem.1 h with ⟨n, hn, rfl⟩
  simp only [imported, List.length_zipWith] at hn
  exact ⟨s.drafts[n], List.getElem_mem _, by simp [imported, Draft.withId]⟩

/-- Mounts are all that can keep drafts that fit from being saved. -/
theorem isSavable_imported_iff (h : ∀ d ∈ s.drafts, d.Fits f) : (s.imported reserved).topology.IsSavable ↔
    ∀ i ∈ (s.imported reserved).topology.instances, ∀ v ∈ i.config.volumes, f.Keeps v := by
  have hfits : ∀ i ∈ (s.imported reserved).topology.instances,
      (∀ p ∈ i.config.ports, p.IsSavable) ∧ ∀ v ∈ i.config.volumes, v.IsSavable ↔ f.Keeps v := by
    intro i hi
    rcases mem_instances_imported hi with ⟨d, hd, hconfig⟩
    rw [hconfig]
    exact ⟨(h d hd).ports, (h d hd).volumes⟩
  constructor
  · intro hsavable i hi v hv
    exact ((hfits i hi).2 v hv).1 ((hsavable.instances i hi).volumes v hv)
  · intro hkeeps
    refine ⟨fun i hi => ⟨(hfits i hi).1, fun v hv => ((hfits i hi).2 v hv).2 (hkeeps i hi v hv)⟩, ?_⟩
    intro c hc
    rcases List.mem_map.1 hc with ⟨link, -, rfl⟩
    exact Connection.id_make_ne_empty _ _ _ _

end Sketch

/-! ## Ports -/

namespace Text

theorem colon_not_mem_of_isDigit {cs : List Char} (h : ∀ c ∈ cs, isDigit c = true) : ':' ∉ cs := by
  intro hmem
  exact absurd (h ':' hmem) (by decide)

theorem colon_not_mem_of_allDigits {cs : List Char} (h : allDigits cs = true) : ':' ∉ cs := by
  rcases Bool.and_eq_true_iff.1 h with ⟨-, hall⟩
  exact colon_not_mem_of_isDigit (by simpa using hall)

end Text

/-! ## AppHosts -/

namespace AppHost

open Text

/-- No calls of an AppHost are read as ports. -/
def Portless (s : Sketch) : Prop :=
  ∀ d ∈ s.drafts, d.config.ports = []

variable {r : Registry} {s s' : Reading} {statement : List Char}

theorem Portless.modify {sketch : Sketch} (h : Portless sketch) {position : Nat} {change : Draft → Draft}
    (hchange : ∀ d ∈ sketch.drafts, (change d).config.ports = []) : Portless (sketch.modify position change) := by
  intro d hd
  rcases List.mem_iff_getElem.1 hd with ⟨n, hn, rfl⟩
  simp only [Sketch.modify, List.length_modify] at hn
  simp only [Sketch.modify, List.getElem_modify]
  split_ifs
  · exact hchange _ (List.getElem_mem hn)
  · exact h _ (List.getElem_mem hn)

theorem portless_addResource (h : Portless s.sketch) (call : ResourceCall) :
    Portless (s.addResource r call).sketch := by
  rw [Reading.addResource]
  split
  · exact h
  · intro d hd
    rcases List.mem_append.1 hd with hd | hd
    · exact h d hd
    · rw [List.mem_singleton.1 hd]
      rfl

theorem portless_addDatabase (h : Portless s.sketch) (call : DatabaseCall) :
    Portless (s.addDatabase call).sketch := by
  rw [Reading.addDatabase]
  split
  · exact h
  · exact h.modify h

theorem portless_addReferences (h : Portless s.sketch) (position : Nat) :
    Portless (s.addReferences position statement).sketch := by
  refine List.foldlRecOn (motive := Portless) _ _ h ?_
  intro sketch hsketch source _ d hd
  rw [Sketch.drafts_addLink] at hd
  exact hsketch d hd

theorem ports_setLifetime (isPersistent : Bool) (c : ResourceConfig) :
    (Reading.setLifetime isPersistent c).ports = c.ports := by
  rw [Reading.setLifetime]
  split_ifs <;> rfl

theorem ports_configure {c c' : ResourceConfig} (h : Reading.configure statement c = .ok c') :
    c'.ports = c.ports := by
  rw [Reading.configure] at h
  split at h
  all_goals
    rcases Except.bind_eq_ok_iff.1 h with ⟨replicas, -, hc⟩
    rw [← Except.ok.inj hc]
    exact ports_setLifetime _ _

theorem portless_apply (h : Portless s.sketch) (happly : s.apply statement = .ok s') : Portless s'.sketch := by
  rcases Reading.apply_cases happly with rfl | ⟨position, draft, config, -, hdraft, hconfig, rfl⟩
  · exact h
  · have hports : config.ports = [] :=
      (ports_configure hconfig).trans (h draft (List.mem_of_getElem? hdraft))
    exact (portless_addReferences h position).modify fun d _ => hports

/-- The statements are read after the resources and the databases. -/
theorem portless_ofAppHost {sketch : Sketch} {text : String} (h : Sketch.ofAppHost r text = .ok sketch) :
    Portless sketch := by
  rcases Except.bind_eq_ok_iff.1 h with ⟨reading, hreading, hsketch⟩
  have hresources : Portless ((Scan.all declaration (dropComments text.toList)).foldl (Reading.addResource r)
      Reading.empty).sketch :=
    List.foldlRecOn (motive := fun s : Reading => Portless s.sketch) _ _ (fun d hd => absurd hd List.not_mem_nil)
      fun s hs call _ => portless_addResource hs call
  have hdatabases := List.foldlRecOn (motive := fun s : Reading => Portless s.sketch)
    (Scan.all databaseDeclaration (dropComments text.toList)) Reading.addDatabase hresources
      fun s hs call _ => portless_addDatabase hs call
  have hportless : Portless reading.sketch :=
    Except.of_foldlM (P := fun s => Portless s.sketch) (fun _ _ _ hs happly => portless_apply hs happly)
      hdatabases hreading
  rw [← Except.ok.inj hsketch]
  split_ifs
  · exact hportless
  · exact hportless

theorem fits_ofAppHost {sketch : Sketch} {text : String} (h : Sketch.ofAppHost r text = .ok sketch) :
    ∀ d ∈ sketch.drafts, d.Fits .appHost := by
  intro d hd
  refine ⟨?_, fun v _ => Iff.rfl⟩
  rw [portless_ofAppHost h d hd]
  exact fun p hp => absurd hp List.not_mem_nil

end AppHost

/-! ## Compose files -/

namespace Compose

open Text

/-- What a service holds can be saved but for empty targets. -/
structure Sound (s : Service) : Prop where
  ports : ∀ p ∈ s.ports, p.IsSavable
  volumes : ∀ v ∈ s.volumes, v.source ≠ "" ∧ ':' ∉ v.target.toList

variable {s : Service} {o : Open} {sec : Section}

theorem isSavable_of_portOf? {port : List Char} {p : PortMapping} (h : Service.portOf? port = some p) :
    p.IsSavable := by
  have hnumeral : ∀ {cs : List Char}, Service.isNumeral cs = true → cs ≠ [] ∧ ':' ∉ cs := by
    intro cs hcs
    rcases Bool.and_eq_true_iff.1 hcs with ⟨hne, hall⟩
    have hdigits : ∀ c ∈ cs, isDigit c = true :=
      fun c hc => isDigit_of_isDecimal (List.all_eq_true.1 hall c hc)
    exact ⟨by simpa using hne, colon_not_mem_of_isDigit hdigits⟩
  have hpair : ∀ {host container : List Char},
      (if Service.isNumeral host && Service.isNumeral container then
        some (⟨String.ofList container, some (String.ofList host)⟩ : PortMapping) else none) = some p →
      p.IsSavable := by
    intro host container h
    split_ifs at h with hdigits
    rcases Bool.and_eq_true_iff.1 hdigits with ⟨hhost, hcontainer⟩
    cases h
    exact ⟨by simpa using (hnumeral hcontainer).2, by simpa using (hnumeral hhost).1⟩
  -- the pieces between the colons decide what a port is
  rw [Service.portOf?] at h
  split at h
  · exact hpair h
  · split_ifs at h
    exact hpair h
  · split_ifs at h with hdigits
    cases h
    exact ⟨by simpa using colon_not_mem_of_allDigits hdigits, by simp⟩
  · cases h

/-- The source of a mount has a first character, and its target ends before the next colon. -/
theorem mount_of_mountOf? {item : List Char} {v : VolumeMount} (h : Service.mountOf? item = some v) :
    v.source ≠ "" ∧ ':' ∉ v.target.toList := by
  rw [Service.mountOf?] at h
  split at h
  · rename_i source target _
    split_ifs at h with hsource
    cases h
    have hne : source ≠ [] := by
      rintro rfl
      simp at hsource
    exact ⟨by simpa using hne, by simpa using not_mem_fst_cut ':' target⟩
  · cases h

theorem Sound.addItem (h : Sound s) (sec : Section) (raw : List Char) : Sound (s.addItem sec raw) := by
  rw [Service.addItem]
  split
  · exact h
  · cases sec with
    | ports =>
      refine ⟨?_, h.volumes⟩
      intro p hp
      rcases List.mem_append.1 hp with hp | hp
      · exact h.ports p hp
      · exact isSavable_of_portOf? (by simpa using hp)
    | volumes =>
      refine ⟨h.ports, ?_⟩
      intro v hv
      rcases List.mem_append.1 hv with hv | hv
      · exact h.volumes v hv
      · exact mount_of_mountOf? (by simpa using hv)
    | dependsOn => exact ⟨h.ports, h.volumes⟩
    | environment => exact ⟨h.ports, h.volumes⟩

theorem Sound.addEntry (h : Sound s) (sec : Section) (key value : List Char) : Sound (s.addEntry sec key value) := by
  cases sec with
  | environment => exact ⟨h.ports, h.volumes⟩
  | dependsOn =>
    rw [Service.addEntry]
    split_ifs
    · exact ⟨h.ports, h.volumes⟩
    · exact h
  | ports => exact h
  | volumes => exact h

theorem Sound.setKey (h : Sound o.service) (indent : Nat) (key value : List Char) :
    Sound (o.setKey indent key value).service := by
  rw [Open.setKey]
  split
  · exact ⟨h.ports, h.volumes⟩
  · split
    · exact List.foldlRecOn (motive := Sound) _ _ h fun _ hs item _ => hs.addItem _ item
    · exact h
    · exact h

theorem Sound.step (h : Sound o.service) (l : Line) : Sound (o.step l).service := by
  rw [Open.step]
  split
  · exact h.addItem _ _
  · split_ifs
    · exact h.addEntry _ _ _
    · exact h.setKey _ _ _
  · exact h.setKey _ _ _
  · exact h

theorem sound_service (b : Block) : Sound b.service :=
  List.foldlRecOn (motive := fun o : Open => Sound o.service) _ _
    ⟨fun _ hp => absurd hp List.not_mem_nil, fun _ hv => absurd hv List.not_mem_nil⟩
    fun _ ho l _ => ho.step l

theorem fits_ofCompose (r : Registry) (text : String) : ∀ d ∈ (Sketch.ofCompose r text).drafts, d.Fits .compose := by
  intro d hd
  rw [drafts_ofCompose, services_eq_blocks] at hd
  rcases List.mem_map.1 hd with ⟨s, hs, rfl⟩
  rcases List.mem_map.1 hs with ⟨b, -, rfl⟩
  refine ⟨(sound_service b).ports, ?_⟩
  intro v hv
  rcases (sound_service b).volumes v hv with ⟨hsource, hcolon⟩
  exact ⟨fun h => h.2.1, fun h => ⟨hsource, h, hcolon⟩⟩

end Compose

/-! ## Dockerfiles -/

namespace Dockerfile

open Text

def Numbered (b : Build) : Prop :=
  ∀ port ∈ b.ports, allDigits port.toList = true

variable {b : Build}

theorem Numbered.addPort (h : Numbered b) (word : List Char) : Numbered (b.addPort word) := by
  rw [Build.addPort]
  split_ifs with hport
  · rcases Bool.and_eq_true_iff.1 hport with ⟨hdigits, -⟩
    intro port hp
    rcases List.mem_append.1 hp with hp | hp
    · exact h port hp
    · rw [List.mem_singleton.1 hp]
      simpa using hdigits
  · exact h

theorem Numbered.step (h : Numbered b) (instruction : List Char) : Numbered (b.step instruction) := by
  simp only [Build.step]
  split_ifs
  · exact h
  · exact List.foldlRecOn (motive := Numbered) _ _ h fun _ hb word _ => hb.addPort word
  · exact h
  · exact h

theorem numbered_ofText (text : String) : Numbered (Build.ofText text) :=
  List.foldlRecOn (motive := Numbered) _ _ (fun _ hp => absurd hp List.not_mem_nil) fun _ hb l _ => hb.step l

theorem fits_ofDockerfile (fileName text : String) :
    ∀ d ∈ (Sketch.ofDockerfile fileName text).drafts, d.Fits .dockerfile := by
  intro d hd
  rw [List.mem_singleton.1 hd]
  refine ⟨?_, fun v hv => absurd hv List.not_mem_nil⟩
  intro p hp
  rcases List.mem_map.1 hp with ⟨port, hport, rfl⟩
  have hdigits := numbered_ofText text port hport
  refine ⟨colon_not_mem_of_allDigits hdigits, ?_⟩
  intro hempty
  rw [Option.some.inj hempty] at hdigits
  exact absurd hdigits (by decide)

end Dockerfile

/-! ## Imported topologies -/

theorem Format.fits_sketch {f : Format} {r : Registry} {fileName text : String} {s : Sketch}
    (h : f.sketch r fileName text = .ok s) : ∀ d ∈ s.drafts, d.Fits f := by
  cases f with
  | appHost => exact AppHost.fits_ofAppHost h
  | compose =>
    rw [← Except.ok.inj h]
    exact Compose.fits_ofCompose r text
  | dockerfile =>
    rw [← Except.ok.inj h]
    exact Dockerfile.fits_ofDockerfile fileName text

theorem Format.isSavable_read_iff {f : Format} {r : Registry} {reserved : List String} {fileName text : String}
    {found : Imported} (h : f.read r reserved fileName text = .ok found) : found.topology.IsSavable ↔
      ∀ i ∈ found.topology.instances, ∀ v ∈ i.config.volumes, f.Keeps v := by
  rcases Format.read_eq_ok_iff.1 h with ⟨s, hs, rfl⟩
  exact Sketch.isSavable_imported_iff (Format.fits_sketch hs)

/-- What was read from a file is loaded as it was saved if its mounts are kept, and only then. -/
theorem reload_imported_iff {f : Format} {r : Registry} {reserved : List String} {fileName text : String}
    {found : Imported} (h : f.read r reserved fileName text = .ok found)
    (hreads : found.topology.toDocument.ReadsBack) (label : String) :
    Topology.ofDocumentText label found.topology.toDocumentText = .ok found.topology ↔
      ∀ i ∈ found.topology.instances, ∀ v ∈ i.config.volumes, f.Keeps v :=
  (Topology.ofDocumentText_eq_ok_iff hreads).trans (Format.isSavable_read_iff h)

/-- What a service with one mount is imported as. -/
def importedMount (target : String) : Topology :=
  ⟨[⟨"imported_1000", "container", "c", none, ⟨[], [], [⟨"./d", target⟩], none, none⟩⟩], []⟩

theorem importedMount_kept : Topology.ofDocumentText "saved" (importedMount "/x").toDocumentText =
    .ok (importedMount "/x") := by
  have hread : Format.compose.read .standard [] "" "services:\n  c:\n    volumes: [./d:/x:ro]\n" = .ok
      ⟨importedMount "/x", ["Could not map service \"c\" to an Aspire resource; using a generic container"]⟩ := by
    decide +kernel
  have htext : (importedMount "/x").toDocument.render = "\n".intercalate ["version: '1'", "instances:",
      "- id: imported_1000", "  type: container", "  name: c", "  volumes:", "  - ./d:/x", "connections: []", ""] := by
    decide +kernel
  have hreads := Yaml.Tree.readsBack_of_isValue htext (by decide +kernel)
  refine (reload_imported_iff hread hreads "saved").2 ?_
  simp [importedMount, Format.Keeps]

/-- A mount without a target is read from a compose file, and saved as a text that is no volume. -/
theorem importedMount_refused : ∃ found,
    Format.compose.read .standard [] "" "services:\n  c:\n    volumes: ['./d:']\n" = .ok found ∧
      found.topology.toDocument.ReadsBack ∧
        Topology.ofDocumentText "saved" found.topology.toDocumentText = .error (.volumeForm "./d:") := by
  refine ⟨⟨importedMount "", ["Could not map service \"c\" to an Aspire resource; using a generic container"]⟩, ?_⟩
  have htext : (importedMount "").toDocument.render = "\n".intercalate ["version: '1'", "instances:",
      "- id: imported_1000", "  type: container", "  name: c", "  volumes:", "  - './d:'", "connections: []", ""] := by
    decide +kernel
  have hreads := Yaml.Tree.readsBack_of_isValue htext (by decide +kernel)
  refine ⟨by decide +kernel, hreads, ?_⟩
  rw [Topology.ofDocumentText_toDocumentText hreads]
  decide +kernel

end HostTopology
