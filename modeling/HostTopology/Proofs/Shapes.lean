import HostTopology.Proofs.Entries
import HostTopology.Proofs.Results
import Mathlib.Data.List.Nodup

/-!
# Shapes — reading data that fits

What the readers of loosely typed data give, and what it takes that they give something:

* `items_map_eq_ok`, `exists_of_items` — lists, item by item;
* `textMapping_eq_ok` — mappings of texts whose keys differ;
* `closedRecord_eq_ok`, `exists_of_closedRecord` — records.
-/

namespace HostTopology
namespace Shape

variable {α β : Type} {read : Reader β} {known : List String} {fields : Fields} {name : String}

/-! ## Lists -/

theorem items_map_eq_ok {f : α → Value} {g : α → β} {l : List α} (h : ∀ a ∈ l, read (f a) = .ok (g a)) (n : Nat) :
    items read n (l.map f) = .ok (l.map g) := by
  induction l generalizing n with
  | nil => rfl
  | cons a l ih =>
    have hrest := ih (fun b hb => h b (List.mem_cons_of_mem a hb)) (n + 1)
    simp [items, h a List.mem_cons_self, hrest]

theorem exists_of_items {n : Nat} {vs : List Value} {xs : List β} (h : items read n vs = .ok xs) :
    ∀ x ∈ xs, ∃ v, read v = .ok x := by
  induction vs generalizing n xs with
  | nil =>
    cases h
    exact fun x hx => absurd hx List.not_mem_nil
  | cons v vs ih =>
    rcases Checked.seq_eq_ok_iff.1 h with ⟨cons, ys, hcons, hys, rfl⟩
    rcases Checked.map_eq_ok_iff.1 hcons with ⟨y, hy, rfl⟩
    intro x hx
    rcases List.mem_cons.1 hx with rfl | hx
    · exact ⟨v, Checked.under_eq_ok_iff.1 hy⟩
    · exact ih hys x hx

theorem list_map_eq_ok {f : α → Value} {g : α → β} {l : List α} (h : ∀ a ∈ l, read (f a) = .ok (g a)) :
    list read (.list (l.map f)) = .ok (l.map g) :=
  items_map_eq_ok h 0

theorem exists_of_list {v : Value} {xs : List β} (h : list read v = .ok xs) :
    ∀ x ∈ xs, ∃ w, read w = .ok x := by
  rw [list, listOr] at h
  split at h
  · exact exists_of_items h
  · exact exists_of_items h
  · exact exists_of_items h
  · cases h

/-! ## Mappings of texts -/

theorem textEntries_eq_ok (pairs : List (String × String)) :
    textEntries true (pairs.map fun e => (.text e.1, .text e.2)) =
      .ok (pairs.map fun e => (.whole e.1, e.2)) := by
  induction pairs with
  | nil => rfl
  | cons e pairs ih => simp [textEntries, points, text, ih, Checked.map]

theorem textMapping_eq_ok (pairs : List (String × String)) (h : (pairs.map Prod.fst).Nodup) :
    textMapping true (.mapping (pairs.map fun e => (.text e.1, .text e.2))) = .ok pairs := by
  have hkeys : (([] ++ pairs.map fun e : String × String => (Text.Points.whole e.1, e.2)).map Prod.fst).Nodup := by
    have hinjective : Function.Injective Text.Points.whole := fun a b hab => by simpa using hab
    have hwhole := List.Nodup.map hinjective h
    simpa [Function.comp_def] using hwhole
  have hfold := Entries.foldl_put hkeys
  simp only [textMapping, Value.opened, textEntries_eq_ok, Checked.map, Checked.map_ok, hfold]
  simp [Function.comp_def]

/-! ## Records -/

/-- A record fits if its fields do and there are no others. -/
theorem closedRecord_eq_ok {read : Fields → Checked α} {a : α} (hread : read fields = .ok a)
    (hknown : ∀ e ∈ fields, ∃ name ∈ known, e.1 = .text name) :
    closedRecord known read (.mapping fields) = .ok a := by
  have hhalves : fields.any (fun e => isHalves e.1) = false := by
    rw [List.any_eq_false]
    intro e he
    rcases hknown e he with ⟨name, -, hkey⟩
    simp [hkey, isHalves]
  have hextras : extras known fields = [] := by
    rw [extras, List.filterMap_eq_nil_iff]
    intro e he
    rcases hknown e he with ⟨name, hname, hkey⟩
    have hfound : (Value.lookupEntry name fields).isSome = true := by
      rw [Value.lookupEntry, Option.isSome_map, List.find?_isSome]
      exact ⟨e, he, by simp [hkey]⟩
    simp [hkey, keyName?, hname, hfound]
  simp [closedRecord, record, Value.opened, hread, hhalves, hextras, Checked.also]

theorem exists_of_closedRecord {read : Fields → Checked α} {v : Value} {a : α}
    (h : closedRecord known read v = .ok a) : ∃ fields, read fields = .ok a := by
  rw [closedRecord, record] at h
  split at h
  · rename_i fields _
    refine ⟨fields, ?_⟩
    split at h
    · cases h
    · split at h
      · cases h
      · exact (Checked.also_eq_ok_iff.1 h).1
  · cases h

theorem withDefault_eq_ok_iff {absent b : β} : withDefault name absent read fields = .ok b ↔
    (Value.lookupEntry name fields = none ∧ absent = b) ∨
      ∃ v, Value.lookupEntry name fields = some v ∧ read v = .ok b := by
  rw [withDefault]
  cases Value.lookupEntry name fields with
  | none => simp
  | some v => simp [Checked.under_eq_ok_iff]

end Shape

end HostTopology
