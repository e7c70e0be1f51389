import HostTopology.Entries
import Mathlib.Data.List.Basic

/-!
# Entries — what is under the keys of a list of entries

* `put_of_notMem`, `foldl_put` — new keys come at the end;
* `lookup_put` — what is put under a key is found there, and nothing else is changed by it;
* `lookup_zip`, `change_zip` — where keys stand in one list and values in another, a key is a position.
-/

namespace HostTopology
namespace Entries

variable {κ α : Type} [DecidableEq κ] {keys : List κ} {values : List α} {key : κ} {value : α} {n : Nat}

theorem put_of_notMem {entries : List (κ × α)} (h : key ∉ entries.map Prod.fst) :
    put entries key value = entries ++ [(key, value)] := by
  induction entries with
  | nil => rfl
  | cons e entries ih =>
    rw [List.map_cons, List.mem_cons, not_or] at h
    rw [put, if_neg (Ne.symm h.1), ih h.2, List.cons_append]

/-- Keys that differ are put one after the other. -/
theorem foldl_put {entries others : List (κ × α)} (h : ((entries ++ others).map Prod.fst).Nodup) :
    others.foldl (fun acc e => put acc e.1 e.2) entries = entries ++ others := by
  induction others generalizing entries with
  | nil => simp
  | cons e others ih =>
    have hnew : e.1 ∉ entries.map Prod.fst := by
      rw [List.map_append, List.map_cons, List.nodup_append] at h
      exact fun hmem => h.2.2 e.1 hmem e.1 List.mem_cons_self rfl
    rw [List.foldl_cons, put_of_notMem hnew, ih (by simpa using h)]
    simp

theorem lookup_cons (e : κ × α) (entries : List (κ × α)) (k : κ) :
    (e :: entries).lookup k = if k = e.1 then some e.2 else entries.lookup k := by
  by_cases h : k = e.1
  · rw [List.lookup_cons, h, beq_self_eq_true, if_pos rfl]
  · rw [List.lookup_cons, beq_eq_false_iff_ne.2 h, if_neg h]

theorem lookup_put (entries : List (κ × α)) (key : κ) (value : α) (k : κ) :
    (put entries key value).lookup k = if k = key then some value else entries.lookup k := by
  induction entries with
  | nil => rw [put, lookup_cons]
  | cons e entries ih =>
    rw [put]
    split
    · -- the value is put in the place of another one
      rename_i hkey
      rw [lookup_cons, lookup_cons, hkey]
      by_cases hk : k = key <;> simp [hk]
    · rename_i hother
      rw [lookup_cons, lookup_cons, ih]
      by_cases hk : k = key
      · simp [hk, Ne.symm hother]
      · simp [hk]

/-! ## Keys and values in two lists -/

theorem lookup_zip (hnodup : keys.Nodup) (hn : keys[n]? = some key) : (keys.zip values).lookup key = values[n]? := by
  induction keys generalizing values n with
  | nil => cases hn
  | cons k keys ih =>
    rw [List.nodup_cons] at hnodup
    cases values with
    | nil => rfl
    | cons v values =>
      rw [List.zip_cons_cons, lookup_cons]
      cases n with
      | zero =>
        obtain rfl := Option.some.inj hn
        exact if_pos rfl
      | succ n =>
        have hother : key ≠ k := fun heq => hnodup.1 (heq ▸ List.mem_of_getElem? hn)
        rw [if_neg hother, ih hnodup.2 hn, List.getElem?_cons_succ]

/-- A key that is in the list changes the value at its position and no other. -/
theorem change_zip (hnodup : keys.Nodup) (hn : keys[n]? = some key) (f : α → α) :
    change (keys.zip values) key f = keys.zip (values.modify n f) := by
  induction keys generalizing values n with
  | nil => cases hn
  | cons k keys ih =>
    rw [List.nodup_cons] at hnodup
    cases values with
    | nil => simp [change]
    | cons v values =>
      cases n with
      | zero =>
        obtain rfl := Option.some.inj hn
        -- the key does not come again
        have hrest : change (keys.zip values) k f = keys.zip values := by
          refine (List.map_congr_left fun e he => if_neg ?_).trans (List.map_id _)
          rintro rfl
          exact hnodup.1 (List.of_mem_zip he).1
        rw [change, List.zip_cons_cons, List.map_cons, ← change, hrest]
        simp
      | succ n =>
        have hother : k ≠ key := fun heq => hnodup.1 (heq ▸ List.mem_of_getElem? hn)
        rw [change, List.zip_cons_cons, List.map_cons, ← change, ih hnodup.2 hn, if_neg hother]
        simp

end Entries
end HostTopology
