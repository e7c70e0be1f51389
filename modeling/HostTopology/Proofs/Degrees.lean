import HostTopology.Proofs.Links

/-!
# Degrees — how many links still hold back each id

What `Sequence.run` keeps beside its queue is a number for each id. This file says what the numbers
are at the start, what taking links away does to them, and which ids that sets free.
-/

namespace HostTopology
namespace Sequence

variable {links : List Connection} {ids : List String} {a b x y : String} {d : Degrees}

/-! ## Successors -/

theorem count_successors (links : List Connection) (a b : String) :
    (successors links a).count b = links.countP fun c => c.target = b ∧ c.source = a := by
  rw [successors, List.count, List.countP_map, List.countP_filter]
  apply List.countP_congr
  intro c _
  simp

/-! ## Single numbers -/

/-- The ids that have a number. -/
def Degrees.keys (d : Degrees) : List String :=
  d.map Prod.fst

theorem keys_lower (x : String) (d : Degrees) : Degrees.keys (lower x d) = Degrees.keys d := by
  simp only [Degrees.keys, lower, List.map_map]
  apply List.map_congr_left
  intro e _
  by_cases h : e.1 = x <;> simp [h]

theorem lookup_lower (x y : String) (d : Degrees) :
    (lower x d).lookup y = (d.lookup y).map fun n => if x = y then n - 1 else n := by
  induction d with
  | nil => rfl
  | cons e d ih =>
    rcases e with ⟨z, n⟩
    have hcons : lower x ((z, n) :: d) = (z, if z = x then n - 1 else n) :: lower x d := by
      by_cases hz : z = x <;> simp [lower, hz]
    rw [hcons, List.lookup_cons, List.lookup_cons, ih]
    by_cases hy : y = z
    · simp [hy, eq_comm]
    · have hbeq : (y == z) = false := by simpa using hy
      simp [hbeq]

theorem degree_lower (hy : y ∈ Degrees.keys d) :
    degree y (lower x d) = degree y d - (if x = y then 1 else 0) := by
  rw [degree, degree, lookup_lower]
  cases hl : d.lookup y with
  | none =>
    rcases List.mem_map.1 hy with ⟨e, he, rfl⟩
    have hne := List.lookup_eq_none_iff.1 hl e he
    simp at hne
  | some n => by_cases hxy : x = y <;> simp [hxy]

theorem degree_of_notMem (hx : x ∉ Degrees.keys d) : degree x d = 0 := by
  have hnone : d.lookup x = none := by
    rw [List.lookup_eq_none_iff]
    intro e he
    have hne : x ≠ e.1 := by
      rintro rfl
      exact hx (List.mem_map_of_mem he)
    simpa using hne
  rw [degree, hnone, Option.getD_none]

theorem keys_startDegrees (ids : List String) (links : List Connection) :
    Degrees.keys (startDegrees ids links) = ids.eraseDups := by
  simp [Degrees.keys, startDegrees, Function.comp_def]

theorem lookup_map_pair (f : String → Int) {ids : List String} (hx : x ∈ ids) :
    (ids.map fun id => (id, f id)).lookup x = some (f x) := by
  induction ids with
  | nil => simp at hx
  | cons id ids ih =>
    by_cases h : x = id
    · simp [h]
    · have hbeq : (x == id) = false := by simpa using h
      have hmem : x ∈ ids := by simpa [h] using hx
      simp [List.lookup_cons, hbeq, ih hmem]

theorem degree_startDegrees (hx : x ∈ ids) :
    degree x (startDegrees ids links) = (links.countP fun c => c.target = x : Nat) := by
  have hx' : x ∈ ids.eraseDups := List.mem_eraseDups.2 hx
  rw [degree, startDegrees, lookup_map_pair (fun id => ((links.countP fun c => c.target = id : Nat) : Int)) hx']
  rfl

/-! ## Taking links away -/

theorem release_cons (x : String) (succs : List String) (d : Degrees) :
    release (x :: succs) d =
      (if degree x (lower x d) = 0 then x :: (release succs (lower x d)).1
        else (release succs (lower x d)).1, (release succs (lower x d)).2) :=
  rfl

theorem keys_release (succs : List String) (d : Degrees) :
    Degrees.keys (release succs d).2 = Degrees.keys d := by
  induction succs generalizing d with
  | nil => rfl
  | cons x succs ih => rw [release_cons, ih, keys_lower]

theorem degree_release (succs : List String) (hy : y ∈ Degrees.keys d) :
    degree y (release succs d).2 = degree y d - succs.count y := by
  induction succs generalizing d with
  | nil => simp [release]
  | cons x succs ih =>
    have hy' : y ∈ Degrees.keys (lower x d) := by rwa [keys_lower]
    rw [release_cons, ih hy', degree_lower hy, List.count_cons]
    by_cases hxy : x = y
    · simp [hxy]
      omega
    · simp [hxy]

theorem release_sublist (succs : List String) (d : Degrees) :
    (release succs d).1.Sublist succs := by
  induction succs generalizing d with
  | nil => simp [release]
  | cons x succs ih =>
    rw [release_cons]
    by_cases hlast : degree x (lower x d) = 0
    · simpa [hlast] using ih (lower x d)
    · simpa [hlast] using (ih (lower x d)).cons x

/-- No id is held back by fewer links than are taken away from it. -/
def Covers (d : Degrees) (succs : List String) : Prop :=
  ∀ x ∈ succs, x ∈ Degrees.keys d ∧ (succs.count x : Int) ≤ degree x d

theorem Covers.tail {succs : List String} (h : Covers d (x :: succs)) : Covers (lower x d) succs := by
  intro y hy
  rcases h y (List.mem_cons_of_mem x hy) with ⟨hkey, hle⟩
  refine ⟨by rwa [keys_lower], ?_⟩
  rw [degree_lower hkey]
  rw [List.count_cons] at hle
  by_cases hxy : x = y
  · simp [hxy] at hle ⊢
    omega
  · simp [hxy] at hle ⊢
    exact hle

/-- An id is set free when the last of its links is taken away. -/
theorem mem_release {succs : List String} (h : Covers d succs) :
    y ∈ (release succs d).1 ↔ y ∈ succs ∧ degree y d = succs.count y := by
  induction succs generalizing d with
  | nil => simp [release]
  | cons x succs ih =>
    rcases h x List.mem_cons_self with ⟨hkey, hle⟩
    have hstep : degree x (lower x d) = degree x d - 1 := by simp [degree_lower hkey]
    have hrest := ih h.tail
    -- `y` itself loses a link here and may be free at once
    by_cases hyx : y = x
    · subst hyx
      rw [List.count_cons_self] at hle ⊢
      by_cases hlast : degree y (lower y d) = 0
      · simp only [release_cons, hlast, if_true, List.mem_cons, true_or, true_and, true_iff]
        push_cast at hle ⊢
        omega
      · simp only [release_cons, hlast, if_false, hrest, List.mem_cons, true_or, true_and]
        push_cast at hle ⊢
        constructor
        · rintro ⟨-, hdeg⟩
          omega
        · intro hdeg
          refine ⟨?_, by omega⟩
          apply List.count_pos_iff.1
          omega
    -- whether `x` is free does not matter for `y`
    · have hxy : ¬ x = y := fun e => hyx e.symm
      have hmem : y ∈ (release (x :: succs) d).1 ↔ y ∈ (release succs (lower x d)).1 := by
        rw [release_cons]
        by_cases hlast : degree x (lower x d) = 0 <;> simp [hlast, hyx]
      rw [hmem, hrest, List.count_cons_of_ne hxy]
      simp only [List.mem_cons, hyx, false_or]
      apply and_congr_right
      intro hy
      have hkey' := (h y (List.mem_cons_of_mem x hy)).1
      simp [degree_lower hkey', hxy]

theorem nodup_release {succs : List String} (h : Covers d succs) : (release succs d).1.Nodup := by
  induction succs generalizing d with
  | nil => simp [release]
  | cons x succs ih =>
    rw [release_cons]
    by_cases hlast : degree x (lower x d) = 0
    · simp only [hlast, if_true, List.nodup_cons]
      refine ⟨?_, ih h.tail⟩
      intro hmem
      -- were `x` set free a second time, more links would be taken away than it has
      have hfree := (mem_release h.tail).1 hmem
      have hpos := List.count_pos_iff.2 hfree.1
      omega
    · simp only [hlast, if_false]
      exact ih h.tail

end Sequence
end HostTopology
