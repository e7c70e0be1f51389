import HostTopology.Shape.Basic
import Mathlib.Data.List.Forall2

/-!
# Results — results that can fail

When a step that can fail gives a result, and when a whole traversal does:

* `Except.bind_eq_ok_iff`, `Except.mapM_eq_ok_iff`, `Except.exists_mapM_ok_iff`, `Except.of_foldlM`,
  `Except.exists_foldlM_iff` — where the first failure ends everything;
* `Except.FailsIn` — all failures that a result can be;
* `Checked.seq_eq_ok_iff`, `Checked.map_eq_ok_iff` — where all violations are collected.
-/

/-! ## One failure -/

namespace Except

variable {ε α β γ : Type}

theorem bind_eq_ok_iff {x : Except ε α} {f : α → Except ε β} {b : β} :
    (x >>= f) = .ok b ↔ ∃ a, x = .ok a ∧ f a = .ok b := by
  cases x <;> simp [bind, Except.bind]

@[simp] theorem mapError_ok (f : ε → γ) (a : α) : (.ok a : Except ε α).mapError f = .ok a := rfl

@[simp] theorem mapError_error (f : ε → γ) (e : ε) : (.error e : Except ε α).mapError f = .error (f e) := rfl

theorem mapError_eq_ok_iff {x : Except ε α} {f : ε → γ} {a : α} :
    x.mapError f = .ok a ↔ x = .ok a := by
  cases x <;> simp

/-- A traversal gives the results of its steps, one for one. -/
theorem mapM_eq_ok_iff {f : α → Except ε β} {l : List α} {ys : List β} :
    l.mapM f = .ok ys ↔ List.Forall₂ (fun x y => f x = .ok y) l ys := by
  induction l generalizing ys with
  | nil =>
    rw [List.mapM_nil, List.forall₂_nil_left_iff]
    exact ⟨fun h => (Except.ok.inj h).symm, fun h => congrArg Except.ok h.symm⟩
  | cons x l ih =>
    simp only [List.mapM_cons, bind_eq_ok_iff, ih, List.forall₂_cons_left_iff]
    constructor
    · rintro ⟨y, hy, rest, hrest, heq⟩
      exact ⟨y, rest, hy, hrest, (Except.ok.inj heq).symm⟩
    · rintro ⟨y, rest, hy, hrest, rfl⟩
      exact ⟨y, hy, rest, hrest, rfl⟩

theorem mapM_eq_ok_map {f : α → Except ε β} {g : α → β} {l : List α} (h : ∀ x ∈ l, f x = .ok (g x)) :
    l.mapM f = .ok (l.map g) :=
  mapM_eq_ok_iff.2 (List.forall₂_map_right_iff.2 (List.forall₂_same.2 h))

/-- A traversal gives results that all satisfy a property exactly if every step gives one. -/
theorem exists_mapM_ok_iff {f : α → Except ε β} {P : β → Prop} {l : List α} :
    (∃ ys, l.mapM f = .ok ys ∧ ∀ y ∈ ys, P y) ↔ ∀ x ∈ l, ∃ y, f x = .ok y ∧ P y := by
  induction l with
  | nil => simp [pure, Except.pure]
  | cons x l ih =>
    simp only [List.mapM_cons, bind_eq_ok_iff, List.mem_cons, forall_eq_or_imp, ← ih]
    constructor
    · rintro ⟨zs, ⟨y, hy, ys, hys, hzs⟩, hall⟩
      obtain rfl : y :: ys = zs := Except.ok.inj hzs
      exact ⟨⟨y, hy, hall y List.mem_cons_self⟩, ys, hys,
        fun z hz => hall z (List.mem_cons_of_mem y hz)⟩
    · rintro ⟨⟨y, hy, hPy⟩, ys, hys, hall⟩
      refine ⟨y :: ys, ⟨y, hy, ys, hys, rfl⟩, ?_⟩
      intro z hz
      rcases List.mem_cons.1 hz with rfl | hz
      · exact hPy
      · exact hall z hz

theorem exists_mapM_iff {f : α → Except ε β} {l : List α} :
    (∃ ys, l.mapM f = .ok ys) ↔ ∀ x ∈ l, ∃ y, f x = .ok y := by
  have hmapM := exists_mapM_ok_iff (f := f) (P := fun _ => True) (l := l)
  simpa using hmapM

theorem exists_mapM_ok {f : α → Except ε β} {l : List α} (h : ∀ x ∈ l, ∃ y, f x = .ok y) :
    ∃ ys, l.mapM f = .ok ys :=
  exists_mapM_iff.2 h

/-- Every result of a traversal is that of a member. -/
theorem exists_of_mem_mapM {f : α → Except ε β} {l : List α} {ys : List β} (h : l.mapM f = .ok ys) {y : β}
    (hy : y ∈ ys) : ∃ x ∈ l, f x = .ok y := by
  replace h := mapM_eq_ok_iff.1 h
  induction h with
  | nil => exact absurd hy List.not_mem_nil
  | cons hx _ ih =>
    rcases List.mem_cons.1 hy with rfl | hy
    · exact ⟨_, List.mem_cons_self, hx⟩
    · obtain ⟨x, hmem, hfound⟩ := ih hy
      exact ⟨x, List.mem_cons_of_mem _ hmem, hfound⟩

theorem forall_mem_of_mapM {f : α → Except ε β} {P : β → Prop} (hP : ∀ x y, f x = .ok y → P y)
    {l : List α} {ys : List β} (h : l.mapM f = .ok ys) : ∀ y ∈ ys, P y := by
  intro y hy
  rcases exists_of_mem_mapM h hy with ⟨x, -, hx⟩
  exact hP x y hx

/-- A traversal collects what its steps collect, one after the other. -/
theorem flatten_of_mapM {f : α → Except ε (List β)} {l : List α} {parts : List (List β)}
    (h : l.mapM f = .ok parts) : parts.flatten = l.flatMap fun x => (f x).toOption.getD [] := by
  replace h := mapM_eq_ok_iff.1 h
  induction h with
  | nil => rfl
  | cons hx _ ih =>
    rw [List.flatten_cons, List.flatMap_cons, hx, ih]
    rfl

theorem mem_flatten_of_mapM_iff {f : α → Except ε (List β)} {l : List α} {parts : List (List β)}
    (h : l.mapM f = .ok parts) {y : β} : y ∈ parts.flatten ↔ ∃ x ∈ l, ∃ found, f x = .ok found ∧ y ∈ found := by
  rw [flatten_of_mapM h, List.mem_flatMap]
  refine exists_congr fun x => and_congr_right fun _ => ?_
  cases f x <;> simp [Except.toOption]

/-- Where a traversal ends, a result with a property is found exactly at the members that lead to one. -/
theorem exists_ok_and_iff {f : α → Except ε β} {P : β → Prop} {Q : α → Prop} {l : List α}
    (h : ∃ ys, l.mapM f = .ok ys) (hQ : ∀ x y, f x = .ok y → (P y ↔ Q x)) :
    (∃ x ∈ l, ∃ y, f x = .ok y ∧ P y) ↔ ∃ x ∈ l, Q x := by
  refine exists_congr fun x => and_congr_right fun hx => ?_
  obtain ⟨y, hy⟩ := exists_mapM_iff.1 h x hx
  rw [← hQ x y hy, hy]
  constructor
  · rintro ⟨z, hz, hP⟩
    exact Except.ok.inj hz ▸ hP
  · exact fun hP => ⟨y, rfl, hP⟩

/-- What every step preserves holds at the end of a run. -/
theorem of_foldlM {f : β → α → Except ε β} {P : β → Prop} (hP : ∀ b x b', P b → f b x = .ok b' → P b')
    {l : List α} {b b' : β} (hb : P b) (h : l.foldlM f b = .ok b') : P b' := by
  induction l generalizing b with
  | nil =>
    rw [← Except.ok.inj h]
    exact hb
  | cons x l ih =>
    rw [List.foldlM_cons] at h
    rcases bind_eq_ok_iff.1 h with ⟨next, hnext, hrest⟩
    exact ih (hP b x next hb hnext) hrest

/-- Where a step succeeds exactly on the elements with a property, whatever came before, a run succeeds
exactly if all elements have it. -/
theorem exists_foldlM_iff {f : β → α → Except ε β} {P : β → Prop} {Q : α → Prop}
    (hP : ∀ b x b', P b → f b x = .ok b' → P b') (hQ : ∀ b x, P b → ((∃ b', f b x = .ok b') ↔ Q x))
    {l : List α} {b : β} (hb : P b) : (∃ b', l.foldlM f b = .ok b') ↔ ∀ x ∈ l, Q x := by
  induction l generalizing b with
  | nil => simp [pure, Except.pure]
  | cons x l ih =>
    rw [List.foldlM_cons, List.forall_mem_cons, ← hQ b x hb]
    constructor
    · rintro ⟨b', hrun⟩
      rcases bind_eq_ok_iff.1 hrun with ⟨next, hnext, hrest⟩
      exact ⟨⟨next, hnext⟩, (ih (hP b x next hb hnext)).1 ⟨b', hrest⟩⟩
    · rintro ⟨⟨next, hnext⟩, hall⟩
      rcases (ih (hP b x next hb hnext)).2 hall with ⟨b', hrest⟩
      exact ⟨b', bind_eq_ok_iff.2 ⟨next, hnext, hrest⟩⟩

/-! ### Failures -/

/-- If the result is a failure, it is one with a property. -/
def FailsIn (P : ε → Prop) (x : Except ε α) : Prop :=
  ∀ e, x = .error e → P e

variable {P : ε → Prop} {x : Except ε α}

@[simp] theorem failsIn_ok (a : α) : (.ok a : Except ε α).FailsIn P :=
  fun _ h => nomatch h

@[simp] theorem failsIn_pure (a : α) : (pure a : Except ε α).FailsIn P :=
  failsIn_ok a

@[simp] theorem failsIn_error_iff {e : ε} : (.error e : Except ε α).FailsIn P ↔ P e := by
  simp [FailsIn]

theorem failsIn_bind_iff {f : α → Except ε β} :
    (x >>= f).FailsIn P ↔ x.FailsIn P ∧ ∀ a, x = .ok a → (f a).FailsIn P := by
  cases x <;> simp [FailsIn, bind, Except.bind]

theorem FailsIn.bind {f : α → Except ε β} (h : x.FailsIn P) (hf : ∀ a, (f a).FailsIn P) : (x >>= f).FailsIn P :=
  failsIn_bind_iff.2 ⟨h, fun a _ => hf a⟩

@[simp] theorem failsIn_map_iff {f : α → β} : (f <$> x).FailsIn P ↔ x.FailsIn P := by
  cases x <;> simp [FailsIn, Functor.map, Except.map]

end Except

/-! ## All violations -/

namespace HostTopology
namespace Shape
namespace Checked

variable {α β : Type} {a : Checked α} {b : β} {x : α}

@[simp] theorem map_ok (f : α → β) : f <$> (ok x : Checked α) = ok (f x) := rfl

@[simp] theorem map_bad (f : α → β) (violations : List Violation) :
    f <$> (bad violations : Checked α) = bad violations := rfl

@[simp] theorem map_broken (f : α → β) (e : Text.NumeralError) : f <$> (broken e : Checked α) = broken e := rfl

@[simp] theorem seq_ok (f : α → β) : (ok f <*> ok x : Checked β) = ok (f x) := rfl

@[simp] theorem under_ok (step : Step) : (ok x).under step = ok x := rfl

theorem map_eq_ok_iff {f : α → β} : f <$> a = ok b ↔ ∃ x, a = ok x ∧ f x = b := by
  cases a <;> simp

theorem seq_eq_ok_iff {f : Checked (α → β)} : f <*> a = ok b ↔ ∃ g x, f = ok g ∧ a = ok x ∧ g x = b := by
  constructor
  · intro h
    cases f with
    | ok g =>
      cases a with
      | ok x => exact ⟨g, x, rfl, rfl, by simpa using h⟩
      | bad violations => cases h
      | broken e => cases h
    | bad violations => cases a <;> cases h
    | broken e => cases h
  · rintro ⟨g, x, rfl, rfl, rfl⟩
    exact seq_ok g

theorem under_eq_ok_iff {step : Step} : a.under step = ok x ↔ a = ok x := by
  cases a <;> simp [under]

theorem also_eq_ok_iff {more : List Violation} : a.also more = ok x ↔ a = ok x ∧ more = [] := by
  cases more with
  | nil => cases a <;> simp [also]
  | cons v more => cases a <;> simp [also]

end Checked
end Shape
end HostTopology
