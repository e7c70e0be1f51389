import HostTopology.Proofs.Lines
import HostTopology.Proofs.Positions
import Mathlib.Tactic.MkIffOfInductiveProp

/-!
# Insertion — environment variables that are put into an import

One line more in a file can be one variable more in what is imported, and nothing else:

* `Imported.insertVariables` — an import with variables put in at a place;
* `Sketch.imported_insertVariables` — the same place in the sketch that is imported;
* `Format.read_insertVariables` — a file that has variables put in;
* `Format.map_insertVariables_inj` — the import tells which variables have been put in.
-/

namespace List

variable {α : Type}

theorem modify_append_cons {l l' : List α} {a : α} {f : α → α} :
    (l ++ a :: l').modify l.length f = l ++ f a :: l' := by
  induction l with
  | nil => rfl
  | cons x l ih => rw [cons_append, length_cons, modify_succ_cons, ih, cons_append]

end List

namespace HostTopology

variable {n k : Nat} {vs vs' : List EnvVar}

/-- A key that is a word, and a value that can stand between double quotes. -/
@[mk_iff]
structure EnvVar.IsQuotable (v : EnvVar) : Prop where
  key_ne : v.key ≠ ""
  key_word : ∀ c ∈ v.key.toList, Text.isWord c = true
  value_unquoted : '"' ∉ v.value.toList

instance (v : EnvVar) : Decidable v.IsQuotable :=
  decidable_of_iff _ (v.isQuotable_iff).symm

namespace EnvVar.IsQuotable

variable {v : EnvVar} {c : Char}

theorem key_toList_ne (h : v.IsQuotable) : v.key.toList ≠ [] := by
  simpa using h.key_ne

theorem visible_key (h : v.IsQuotable) : ∀ c ∈ v.key.toList, Text.isBlank c = false :=
  fun c hc => Text.isBlank_of_isWord (h.key_word c hc)

theorem not_mem_key (h : v.IsQuotable) (hc : Text.isWord c = false) : c ∉ v.key.toList := by
  intro hmem
  rw [h.key_word c hmem] at hc
  cases hc

end EnvVar.IsQuotable

/-- Variables put in behind the first ones. -/
def ResourceConfig.insertVariables (k : Nat) (vs : List EnvVar) (c : ResourceConfig) : ResourceConfig :=
  { c with envVars := c.envVars.take k ++ (vs ++ c.envVars.drop k) }

def Draft.insertVariables (k : Nat) (vs : List EnvVar) (d : Draft) : Draft :=
  { d with config := d.config.insertVariables k vs }

/-- Variables put in behind the first ones of the instance at a position. -/
def Imported.insertVariables (n k : Nat) (vs : List EnvVar) (found : Imported) : Imported where
  topology :=
    { found.topology with
      instances := found.topology.instances.modify n fun i => { i with config := i.config.insertVariables k vs } }
  warnings := found.warnings

theorem Draft.withId_insertVariables (d : Draft) (id : String) : (d.insertVariables k vs).withId id =
    { d.withId id with config := (d.withId id).config.insertVariables k vs } :=
  rfl

/-- A sketch is imported with the variables that are put into it. -/
theorem Sketch.imported_insertVariables (s : Sketch) (n k : Nat) (vs : List EnvVar) (reserved : List String) :
    (s.modify n (Draft.insertVariables k vs)).imported reserved = (s.imported reserved).insertVariables n k vs := by
  have hlength : (s.modify n (Draft.insertVariables k vs)).drafts.length = s.drafts.length :=
    List.length_modify ..
  have hinstances : ∀ ids : List String, (s.drafts.modify n (Draft.insertVariables k vs)).zipWith Draft.withId ids =
      (s.drafts.zipWith Draft.withId ids).modify n fun i => { i with config := i.config.insertVariables k vs } := by
    intro ids
    refine List.ext_getElem? fun m => ?_
    rw [List.getElem?_zipWith, List.getElem?_modify, List.getElem?_modify, List.getElem?_zipWith]
    by_cases hm : n = m
    · cases hdraft : s.drafts[m]? <;> cases hid : ids[m]? <;> simp [hm, Draft.withId_insertVariables]
    · simp [hm]
  rw [imported, imported, hlength]
  exact congrArg (fun instances => (⟨⟨instances, _⟩, _⟩ : Imported)) (hinstances _)

/-- Different variables make different imports. -/
theorem Imported.insertVariables_inj {found : Imported} {i : ResourceInstance}
    (hi : found.topology.instances[n]? = some i) (h : found.insertVariables n k vs = found.insertVariables n k vs') :
    vs = vs' := by
  have hconfig : ∀ ws, ((found.insertVariables n k ws).topology.instances[n]?).map ResourceInstance.config =
      some (i.config.insertVariables k ws) := by
    intro ws
    simp [insertVariables, hi]
  have heq : i.config.insertVariables k vs = i.config.insertVariables k vs' := by
    simpa [h, hconfig] using (hconfig vs).symm
  have hvariables := congrArg ResourceConfig.envVars heq
  exact List.append_cancel_right (List.append_cancel_left hvariables)

/-! ## Files -/

namespace Format

variable {f : Format} {r : Registry} {reserved : List String} {fileName text text' : String} {s : Sketch}

/-- A file that has variables put in where another one has not. -/
theorem read_insertVariables (h : f.sketch r fileName text = .ok s)
    (h' : f.sketch r fileName text' = .ok (s.modify n (Draft.insertVariables k vs))) :
    f.read r reserved fileName text' = (f.read r reserved fileName text).map (Imported.insertVariables n k vs) := by
  rw [read_eq h, read_eq h', Sketch.imported_insertVariables]
  rfl

/-- The import tells which variables have been put in. -/
theorem map_insertVariables_inj (h : f.sketch r fileName text = .ok s) (hn : n < s.drafts.length) :
    (f.read r reserved fileName text).map (Imported.insertVariables n k vs) =
      (f.read r reserved fileName text).map (Imported.insertVariables n k vs') ↔ vs = vs' := by
  have hlength : (s.imported reserved).topology.instances.length = s.drafts.length := by
    rw [Sketch.imported, List.length_zipWith, length_freshIds, Nat.min_self]
  have hinstance := List.getElem?_eq_getElem (hlength.symm ▸ hn)
  rw [read_eq h]
  exact ⟨fun heq => Imported.insertVariables_inj hinstance (Except.ok.inj heq), fun heq => by rw [heq]⟩

end Format

end HostTopology
