import HostTopology.Yaml.Node.Meaning
import HostTopology.Yaml.Tree.Printer

/-!
# Trees — data that is written as YAML and read again

* `lookupEntry_valueEntries` — the fields of a mapping;
* `isValue` — a comparison of a value with that of a tree;
* `ReadsBack` — the text of a tree denotes its value, which is up to YAML.
-/

namespace HostTopology
namespace Yaml
namespace Tree

/-! ## Values -/

theorem valueAll_eq_map (ts : List Tree) : valueAll ts = ts.map value := by
  induction ts with
  | nil => rfl
  | cons t ts ih => rw [valueAll, ih, List.map_cons]

theorem valueEntries_eq_map (es : List (String × Tree)) :
    valueEntries es = es.map fun e => (.text e.1, e.2.value) := by
  induction es with
  | nil => rfl
  | cons e es ih => rw [valueEntries, ih, List.map_cons]

theorem lookupEntry_valueEntries (name : String) (es : List (String × Tree)) :
    Value.lookupEntry name (valueEntries es) = (es.lookup name).map value := by
  induction es with
  | nil => rfl
  | cons e es ih =>
    rw [Value.lookupEntry] at ih
    obtain ⟨key, v⟩ := e
    by_cases hname : key = name
    · simp [valueEntries, Value.lookupEntry, hname]
    · have hother : (name == key) = false := by simpa using Ne.symm hname
      simpa [valueEntries, Value.lookupEntry, List.lookup_cons, hname, hother] using ih

/-! ## Texts that denote their data -/

mutual

def isValue : Tree → Value → Bool
  | text s, .text s' => s' = s
  | int n, .int m => m = n
  | bool b, .bool c => c = b
  | list items, .list vs => areValues items vs
  | mapping entries, .mapping es => areEntries entries es
  | _, _ => false

def areValues : List Tree → List Value → Bool
  | [], [] => true
  | t :: ts, v :: vs => t.isValue v && areValues ts vs
  | _, _ => false

def areEntries : List (String × Tree) → List (Value × Value) → Bool
  | [], [] => true
  | (k, t) :: es, (.text s, v) :: rest => s = k && t.isValue v && areEntries es rest
  | _, _ => false

end

mutual

theorem eq_value_of_isValue : ∀ {t : Tree} {v : Value}, t.isValue v = true → v = t.value
  | text s, v, h => by cases v <;> simp_all [isValue, value]
  | int n, v, h => by cases v <;> simp_all [isValue, value]
  | bool b, v, h => by cases v <;> simp_all [isValue, value]
  | list items, v, h => by
    cases v with
    | list vs => simpa [value] using eq_valueAll_of_areValues h
    | _ => simp [isValue] at h
  | mapping entries, v, h => by
    cases v with
    | mapping es => simpa [value] using eq_valueEntries_of_areEntries h
    | _ => simp [isValue] at h

theorem eq_valueAll_of_areValues : ∀ {ts : List Tree} {vs : List Value}, areValues ts vs = true → vs = valueAll ts
  | [], [], _ => rfl
  | [], _ :: _, h => by simp [areValues] at h
  | _ :: _, [], h => by simp [areValues] at h
  | t :: ts, v :: vs, h => by
    rcases Bool.and_eq_true_iff.1 h with ⟨hfirst, hrest⟩
    rw [valueAll, ← eq_value_of_isValue hfirst, ← eq_valueAll_of_areValues hrest]

theorem eq_valueEntries_of_areEntries : ∀ {es : List (String × Tree)} {rest : List (Value × Value)},
    areEntries es rest = true → rest = valueEntries es
  | [], [], _ => rfl
  | [], _ :: _, h => by simp [areEntries] at h
  | _ :: _, [], h => by simp [areEntries] at h
  | (k, t) :: es, (key, v) :: rest, h => by
    cases key with
    | text s =>
      simp only [areEntries, Bool.and_eq_true, decide_eq_true_eq] at h
      rcases h with ⟨⟨rfl, hfirst⟩, hrest⟩
      rw [valueEntries, ← eq_value_of_isValue hfirst, ← eq_valueEntries_of_areEntries hrest]
    | _ => simp [areEntries] at h

end

/-- The text of a tree denotes its value. -/
def ReadsBack (tree : Tree) : Prop :=
  Value.ofYaml tree.render = .ok tree.value

/-- Reading the text shows whether it does. -/
theorem readsBack_of_isValue {tree : Tree} {text : String} (htext : tree.render = text)
    (h : (Value.ofYaml text).toOption.any tree.isValue = true) : tree.ReadsBack := by
  rw [ReadsBack, htext]
  cases hread : Value.ofYaml text with
  | error fault => simp [hread, Except.toOption] at h
  | ok v =>
    have hvalue : tree.isValue v = true := by simpa [hread, Except.toOption] using h
    rw [eq_value_of_isValue hvalue]

end Tree
end Yaml
end HostTopology
