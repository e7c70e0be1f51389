import HostTopology.Config
import HostTopology.Proofs.Decoding
import HostTopology.Proofs.Spelling

/-!
# Loading — errors that the loaders have of their own

A loader promises one kind of error. Behind it stand the reading of YAML and the writing of numbers, which
have failures of other kinds:

* `DocumentError.IsOwn`, `ConfigError.IsOwn` — the errors that are promised;
* `Yaml.IsDecodable` — the text is YAML, or fails to be in the way that is looked for;
* `Document.IsSpelled` — no number with too many digits is wanted as text;
* `errors_own_iff` — only together do they leave the loaders no errors but their own.
-/

namespace HostTopology

/-! ## Errors of their own -/

def DocumentError.IsOwn : DocumentError → Prop
  | unreadable _ => False
  | numeral _ => False
  | _ => True

def ConfigError.IsOwn : ConfigError → Prop
  | unreadable _ => False
  | _ => True

/-- The only fault that is taken for an error of the text. -/
def Yaml.IsDecodable (text : String) : Prop :=
  (Value.ofYaml text).FailsIn (· = .malformed)

/-! ## Documents -/

namespace Document

open Shape

/-- The version of a document can be written, and if it is the known one, so can everything that is wanted
as text. -/
structure IsSpelled (data : Value) : Prop where
  numbers : ∀ v ∈ field "version" (fieldsOf data), ∀ n ∈ v.numbersIn [], n.natAbs < Text.numeralBound
  texts : versionOf (fieldsOf data) = .ok version → ∀ w ∈ documentTexts data, w.IsWritable

theorem exists_versionOf_iff {fields : Fields} : (∃ version, versionOf fields = .ok version) ↔
    ∀ v ∈ field "version" fields, ∀ n ∈ v.numbersIn [], n.natAbs < Text.numeralBound := by
  simp only [versionOf, field]
  cases Value.lookupEntry "version" fields with
  | none => simp
  | some v => simpa using Value.exists_display_iff v

/-- A document is spelled exactly if its version is found, and its check is done where one is made. -/
theorem isSpelled_iff {data : Value} : IsSpelled data ↔
    ∃ found, versionOf (fieldsOf data) = .ok found ∧ (found = version → (document data).IsDone) := by
  rw [wants_document data]
  constructor
  · intro h
    rcases exists_versionOf_iff.2 h.numbers with ⟨found, hfound⟩
    exact ⟨found, hfound, fun hknown => h.texts (hknown ▸ hfound)⟩
  · rintro ⟨found, hfound, htexts⟩
    refine ⟨exists_versionOf_iff.1 ⟨found, hfound⟩, fun hversion => ?_⟩
    exact htexts (Except.ok.inj (hfound.symm.trans hversion))

theorem failsIn_mountsOf (texts : List String) : (mountsOf texts).FailsIn DocumentError.IsOwn := by
  induction texts with
  | nil => simp [mountsOf]
  | cons text rest ih =>
    cases hvolume : parseVolume? text with
    | none => simp [mountsOf, hvolume, DocumentError.IsOwn]
    | some v => simpa [mountsOf, hvolume] using ih

theorem failsIn_instancesOf (entries : List InstanceEntry) : (instancesOf entries).FailsIn DocumentError.IsOwn := by
  induction entries with
  | nil => simp [instancesOf]
  | cons e rest ih =>
    have hinstance : e.toInstance.FailsIn DocumentError.IsOwn :=
      (failsIn_mountsOf e.volumes).bind fun _ => Except.failsIn_ok _
    exact hinstance.bind fun _ => ih.bind fun _ => Except.failsIn_ok _

end Document

namespace Topology

open Shape Document

variable {label : String} {data : Value}

theorem failsIn_ofDocument_iff : (ofDocument label data).FailsIn DocumentError.IsOwn ↔ IsSpelled data := by
  rw [ofDocument, isSpelled_iff]
  cases hentries : data.entries? with
  | none =>
    have hfields : fieldsOf data = [] := by simp [fieldsOf, hentries]
    have htexts : documentTexts data = [] := by simp [documentTexts, hfields, field, Value.lookupEntry]
    simp [hfields, htexts, versionOf, Value.lookupEntry, wants_document data, DocumentError.IsOwn]
  | some fields =>
    have hfields : fieldsOf data = fields := by simp [fieldsOf, hentries]
    rw [hfields]
    cases hversion : versionOf fields with
    | error e => simp [hversion, Except.failsIn_bind_iff, DocumentError.IsOwn]
    | ok found =>
      by_cases hknown : found = version
      · -- the shape is checked; behind it only volumes are refused
        cases hdocument : document data with
        | bad violations => simp [hversion, hknown, Except.failsIn_bind_iff, DocumentError.IsOwn]
        | broken e => simp [hversion, hknown, Except.failsIn_bind_iff, DocumentError.IsOwn]
        | ok found =>
          have hinstances := failsIn_instancesOf found.1
          simp [hversion, hknown, Except.failsIn_bind_iff, hinstances]
      · simp [hversion, hknown, Except.failsIn_bind_iff, DocumentError.IsOwn]

theorem failsIn_ofDocumentText_iff {text : String} :
    (ofDocumentText label text).FailsIn DocumentError.IsOwn ↔
      Yaml.IsDecodable text ∧ ∀ data, Value.ofYaml text = .ok data → IsSpelled data := by
  rw [ofDocumentText, Yaml.IsDecodable]
  cases Value.ofYaml text with
  | ok data => simp [failsIn_ofDocument_iff]
  | error fault => cases fault <;> simp [DocumentError.IsOwn]

end Topology

/-! ## Settings -/

namespace ProjectConfig

variable {label : String}

theorem failsIn_setting {α : Type} {entries : Entries} {key : String} {default : α}
    {read : Value → Except ConfigError α} (h : ∀ v, (read v).FailsIn ConfigError.IsOwn) :
    (setting entries key default read).FailsIn ConfigError.IsOwn := by
  rw [setting]
  cases Value.lookupEntry key entries with
  | none => simp
  | some v => exact h v

theorem failsIn_text (key : String) (v : Value) : (ProjectConfig.text label key v).FailsIn ConfigError.IsOwn := by
  cases v <;> simp [ProjectConfig.text, ConfigError.IsOwn]

theorem failsIn_positive (v : Value) : (positive label v).FailsIn ConfigError.IsOwn := by
  cases v with
  | int n =>
    rw [positive]
    split <;> simp [ConfigError.IsOwn]
  | _ => simp [positive, ConfigError.IsOwn]

theorem failsIn_truthValue (v : Value) : (truthValue label v).FailsIn ConfigError.IsOwn := by
  cases v <;> simp [truthValue, ConfigError.IsOwn]

theorem failsIn_ofEntries (entries : Entries) : (ofEntries label entries).FailsIn ConfigError.IsOwn := by
  refine (failsIn_setting (failsIn_text _)).bind fun _ => ?_
  refine (failsIn_setting failsIn_positive).bind fun _ => ?_
  refine (failsIn_setting failsIn_truthValue).bind fun _ => ?_
  exact (failsIn_setting (failsIn_text _)).bind fun _ => Except.failsIn_ok _

theorem failsIn_ofText_iff {content : String} : (ofText label content).FailsIn ConfigError.IsOwn ↔ Yaml.IsDecodable content := by
  rw [ofText, Yaml.IsDecodable]
  cases Value.ofYaml content with
  | ok data =>
    cases hdata : data.opened <;> simp [Except.map, hdata, failsIn_ofEntries, ConfigError.IsOwn]
  | error fault => cases fault <;> simp [Except.map, ConfigError.IsOwn]

end ProjectConfig

/-! ## Both loaders -/

/-- Loading fails only with errors of its own exactly if the text can be decoded and, in a document, everything
that is wanted as text can be written; and what keeps a text from being decoded has a cause. -/
theorem errors_own_iff (label text : String) :
    ((Topology.ofDocumentText label text).FailsIn DocumentError.IsOwn ↔
      Yaml.IsDecodable text ∧ ∀ data, Value.ofYaml text = .ok data → Document.IsSpelled data) ∧
    ((ProjectConfig.ofText label text).FailsIn ConfigError.IsOwn ↔ Yaml.IsDecodable text) ∧
    ∀ fault, Value.ofYaml text = .error fault → fault = .malformed ∨ Yaml.Cause text fault :=
  ⟨Topology.failsIn_ofDocumentText_iff, ProjectConfig.failsIn_ofText_iff, Yaml.failsIn_ofYaml text⟩

/-- A day that is not in the calendar. -/
def leapDay : String := "created: 2023-02-29"

theorem not_isDecodable_leapDay : ¬ Yaml.IsDecodable leapDay := by
  have hcalendar : (match Value.ofYaml leapDay with
      | .error fault => decide (fault = .calendar)
      | .ok _ => false) = true := by decide +kernel
  intro h
  cases hread : Value.ofYaml leapDay with
  | ok data => simp [hread] at hcalendar
  | error fault =>
    obtain rfl : fault = .calendar := by simpa [hread] using hcalendar
    exact absurd (h .calendar hread) (by decide)

/-- Neither loader says that it is wrong. -/
theorem leapDay_errors_not_own :
    ¬ (Topology.ofDocumentText "saved" leapDay).FailsIn DocumentError.IsOwn ∧
      ¬ (ProjectConfig.ofText "settings" leapDay).FailsIn ConfigError.IsOwn := by
  rw [Topology.failsIn_ofDocumentText_iff, ProjectConfig.failsIn_ofText_iff]
  exact ⟨fun h => not_isDecodable_leapDay h.1, not_isDecodable_leapDay⟩

end HostTopology
