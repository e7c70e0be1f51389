import HostTopology.Proofs.Degrees

/-!
# Order — the order in which ids leave the queue

A run of `Sequence.run` is followed by the ids that have left the queue, those in it, and the number
of links that hold back each id. This file defines

* `held` — how many links lead to an id from ids that have not left the queue;
* `Ordered` — sources stand before their targets, and an id stands before another only if the last
  of its sources does not stand after the last source of the other (the queue is first in, first out);
* `Queued` — the invariant of a run; `Queued.step` keeps it and `Queued.run` carries it to the end;
* `DependencyOrder` — what is left at the end, with the fact that nothing more could be placed;
* `DependencyOrder.not_mem_iff` — the ids that are not placed are those on cycles and behind them.

`Queued.run_eq` is the converse: a list that is `Ordered` is the result of a run that starts from
it, if the links of every id come in the order of their targets.
-/

namespace HostTopology
namespace Sequence

variable {links : List Connection} {ids done queue order : List String} {a b id x y : String}
  {d : Degrees}

/-! ## Links that hold back an id -/

def held (links : List Connection) (done : List String) (x : String) : Nat :=
  links.countP fun c => c.target = x ∧ c.source ∉ done

theorem held_eq_zero_iff : held links done x = 0 ↔ ∀ a, Leads links a x → a ∈ done := by
  simp only [held, List.countP_eq_zero, decide_eq_true_eq, not_and, not_not]
  constructor
  · rintro h a ⟨c, hc, rfl, rfl⟩
    exact h c hc rfl
  · intro h c hc hx
    exact h c.source ⟨c, hc, rfl, hx⟩

theorem held_nil : held links [] x = links.countP fun c => c.target = x := by
  simp [held]

/-- Placing an id takes away the links that lead from it. -/
theorem held_append (hid : id ∉ done) :
    held links done x = held links (done ++ [id]) x + (successors links id).count x := by
  rw [count_successors, held, held]
  induction links with
  | nil => rfl
  | cons c links ih =>
    have hcase : (c.target = x ∧ c.source ∉ done) ↔
        (c.target = x ∧ c.source ∉ done ++ [id]) ∨ (c.target = x ∧ c.source = id) := by
      by_cases hc : c.source = id <;> simp [hc, hid]
    have hexcl : ¬ ((c.target = x ∧ c.source ∉ done ++ [id]) ∧ (c.target = x ∧ c.source = id)) := by
      rintro ⟨⟨-, hnot⟩, -, rfl⟩
      simp at hnot
    simp only [List.countP_cons, decide_eq_true_eq, ih]
    by_cases h₁ : c.target = x ∧ c.source ∉ done ++ [id]
    · have h₂ : ¬ (c.target = x ∧ c.source = id) := fun h => hexcl ⟨h₁, h⟩
      rw [if_pos (hcase.2 (Or.inl h₁)), if_pos h₁, if_neg h₂]
      omega
    · by_cases h₂ : c.target = x ∧ c.source = id
      · rw [if_pos (hcase.2 (Or.inr h₂)), if_neg h₁, if_pos h₂]
        omega
      · rw [if_neg (fun h => (hcase.1 h).elim h₁ h₂), if_neg h₁, if_neg h₂]
        omega

/-! ## Positions -/

theorem idxOf_append (hx : x ∈ done) : (done ++ queue).idxOf x = done.idxOf x :=
  List.idxOf_append_of_mem hx

theorem pairwise_idxOf {l : List String} (h : l.Nodup) :
    l.Pairwise fun x y => l.idxOf x < l.idxOf y := by
  rw [List.pairwise_iff_getElem]
  intro i j hi hj hij
  rw [h.idxOf_getElem, h.idxOf_getElem]
  exact hij

theorem filter_prefix {l : List String} {p : String → Bool}
    (h : l.Pairwise fun x y => p y = true → p x = true) : l.filter p <+: l := by
  induction l with
  | nil => simp
  | cons x l ih =>
    rw [List.pairwise_cons] at h
    by_cases hx : p x = true
    · rw [List.filter_cons_of_pos hx, List.prefix_cons_inj]
      exact ih h.2
    · have hnil : l.filter p = [] := by
        rw [List.filter_eq_nil_iff]
        intro y hy hpy
        exact hx (h.1 y hy hpy)
      simp [hx, hnil]

/-! ## Ordered lists -/

structure Ordered (links : List Connection) (order : List String) : Prop where
  sources : ∀ x ∈ order, ∀ a, Leads links a x → a ∈ order ∧ order.idxOf a < order.idxOf x
  fifo : order.Pairwise fun x y =>
    ∀ a, Leads links a x → ∃ b, Leads links b y ∧ order.idxOf a ≤ order.idxOf b

theorem Ordered.idxOf_lt_of_transGen (h : Ordered links order)
    (hab : Relation.TransGen (Leads links) a b) (hb : b ∈ order) :
    a ∈ order ∧ order.idxOf a < order.idxOf b := by
  induction hab with
  | single hab => exact h.sources _ hb _ hab
  | tail _ hbc ih =>
    have hc := h.sources _ hb _ hbc
    have hab := ih hc.1
    exact ⟨hab.1, hab.2.trans hc.2⟩

theorem Ordered.source_mem_before {before after : List String} (h : Ordered links (before ++ x :: after))
    (hn : (before ++ x :: after).Nodup) (ha : Leads links a x) : a ∈ before := by
  have hlt := (h.sources x (List.mem_append_right before List.mem_cons_self) a ha).2
  rw [hn.idxOf_middle] at hlt
  by_contra hnot
  rw [List.idxOf_append_of_notMem hnot] at hlt
  omega

theorem Ordered.not_onCycle (h : Ordered links order) (hx : x ∈ order) : ¬ OnCycle links x := by
  intro hcycle
  exact lt_irrefl _ (h.idxOf_lt_of_transGen hcycle hx).2

/-- Ids whose last source is `id` may follow if no listed id has a source after `id`. -/
theorem Ordered.append (h : Ordered links order) (hid : id ∈ order) {freed : List String}
    (hlast : ∀ x ∈ order, ∀ a, Leads links a x → order.idxOf a ≤ order.idxOf id)
    (hfreed : ∀ y ∈ freed, y ∉ order ∧ Leads links id y ∧
      ∀ a, Leads links a y → a ∈ order ∧ order.idxOf a ≤ order.idxOf id) :
    Ordered links (order ++ freed) := by
  constructor
  · intro x hx a ha
    rcases List.mem_append.1 hx with hx | hx
    · rcases h.sources x hx a ha with ⟨hmem, hlt⟩
      refine ⟨List.mem_append_left _ hmem, ?_⟩
      rwa [idxOf_append hmem, idxOf_append hx]
    -- a new id stands behind everything that is listed
    · rcases hfreed x hx with ⟨hnot, -, hsrc⟩
      rcases hsrc a ha with ⟨hmem, -⟩
      refine ⟨List.mem_append_left _ hmem, ?_⟩
      rw [idxOf_append hmem, List.idxOf_append_of_notMem hnot]
      have hlt := List.idxOf_lt_length_iff.2 hmem
      omega
  · rw [List.pairwise_append]
    refine ⟨?_, ?_, ?_⟩
    · apply h.fifo.imp_of_mem
      intro x y hx hy hxy a ha
      rcases hxy a ha with ⟨b, hb, hle⟩
      refine ⟨b, hb, ?_⟩
      rwa [idxOf_append (h.sources x hx a ha).1, idxOf_append (h.sources y hy b hb).1]
    -- `id` is a source of every new id, and none has a later one
    · rw [List.pairwise_iff_forall_sublist]
      intro x y hsub a ha
      have hx : x ∈ freed := hsub.subset (by simp)
      have hy : y ∈ freed := hsub.subset (by simp)
      rcases (hfreed x hx).2.2 a ha with ⟨hmem, hle⟩
      refine ⟨id, (hfreed y hy).2.1, ?_⟩
      rwa [idxOf_append hmem, idxOf_append hid]
    · intro x hx y hy a ha
      refine ⟨id, (hfreed y hy).2.1, ?_⟩
      rw [idxOf_append (h.sources x hx a ha).1, idxOf_append hid]
      exact hlast x hx a ha

/-! ## The invariant of a run -/

structure Queued (links : List Connection) (ids done queue : List String) (d : Degrees) : Prop where
  joins : Joins links ids
  keys : ∀ x ∈ ids, x ∈ Degrees.keys d
  nodup : (done ++ queue).Nodup
  subset : ∀ x ∈ done ++ queue, x ∈ ids
  degree_eq : ∀ x ∈ ids, degree x d = held links done x
  free : ∀ x ∈ ids, held links done x = 0 → x ∈ done ++ queue
  placed : ∀ x ∈ done ++ queue, ∀ a, Leads links a x → a ∈ done
  ordered : Ordered links (done ++ queue)

namespace Queued

theorem length_le (h : Queued links ids done queue d) : (done ++ queue).length ≤ ids.length :=
  (List.subperm_of_subset h.nodup h.subset).length_le

/-- The queue starts with the ids that have no source. -/
theorem start (hj : Joins links ids) (hn : ids.Nodup) :
    Queued links ids [] (ids.filter fun x => degree x (startDegrees ids links) = 0)
      (startDegrees ids links) := by
  have hdegree : ∀ x ∈ ids, degree x (startDegrees ids links) = held links [] x := by
    intro x hx
    rw [degree_startDegrees hx, held_nil]
  have hroot : ∀ x ∈ ids.filter (fun x => degree x (startDegrees ids links) = 0), ∀ a, ¬ Leads links a x := by
    intro x hx a ha
    rcases List.mem_filter.1 hx with ⟨hmem, hzero⟩
    have hheld : held links [] x = 0 := by
      have hcast := hdegree x hmem
      rw [of_decide_eq_true hzero] at hcast
      exact_mod_cast hcast.symm
    exact List.not_mem_nil (held_eq_zero_iff.1 hheld a ha)
  constructor
  case joins => exact hj
  case keys =>
    intro x hx
    rwa [keys_startDegrees, List.mem_eraseDups]
  case nodup => simpa using hn.filter _
  case subset =>
    intro x hx
    exact (List.mem_filter.1 hx).1
  case degree_eq => exact hdegree
  case free =>
    intro x hx hzero
    simp [hx, hdegree x hx, hzero]
  case placed =>
    intro x hx a ha
    exact absurd ha (hroot x hx a)
  case ordered =>
    -- nothing in the queue has a source, so there is nothing to compare
    constructor
    · intro x hx a ha
      exact absurd ha (hroot x hx a)
    · rw [List.nil_append, List.pairwise_iff_forall_sublist]
      intro x y hsub a ha
      exact absurd ha (hroot x (hsub.subset (by simp)) a)

/-! ### One step -/

section Step

variable (h : Queued links ids done (id :: queue) d)
include h

theorem next_not_mem : id ∉ done :=
  h.nodup.not_mem_before

theorem idxOf_le_next (ha : a ∈ done ++ [id]) :
    (done ++ id :: queue).idxOf a ≤ (done ++ id :: queue).idxOf id := by
  have hnext := h.nodup.idxOf_middle
  rw [hnext]
  rcases List.mem_append.1 ha with ha | ha
  · rw [idxOf_append ha]
    exact (List.idxOf_lt_length_iff.2 ha).le
  · rw [List.mem_singleton.1 ha, hnext]

theorem covers : Covers d (successors links id) := by
  intro x hx
  have hmem : x ∈ ids := h.joins.target_mem (mem_successors.1 hx)
  refine ⟨h.keys x hmem, ?_⟩
  rw [h.degree_eq x hmem, held_append h.next_not_mem]
  omega

theorem mem_freed : y ∈ (release (successors links id) d).1 ↔
    Leads links id y ∧ ∀ a, Leads links a y → a ∈ done ++ [id] := by
  rw [mem_release h.covers, mem_successors]
  apply and_congr_right
  intro hlead
  rw [h.degree_eq y (h.joins.target_mem hlead), held_append h.next_not_mem, ← held_eq_zero_iff]
  omega

theorem freed_not_mem (hy : y ∈ (release (successors links id) d).1) : y ∉ done ++ id :: queue := by
  intro hmem
  have hlead := (h.mem_freed.1 hy).1
  exact h.next_not_mem (h.placed y hmem id hlead)

/-- Taking the first id from the queue keeps the invariant. -/
theorem step : Queued links ids (done ++ [id]) (queue ++ (release (successors links id) d).1)
    (release (successors links id) d).2 := by
  have hlist : done ++ [id] ++ (queue ++ (release (successors links id) d).1) =
      (done ++ id :: queue) ++ (release (successors links id) d).1 := by simp
  have hsub : ∀ a ∈ done ++ [id], a ∈ done ++ id :: queue := by
    intro a ha
    simp only [List.mem_append, List.mem_cons] at ha ⊢
    tauto
  have hidmem : id ∈ done ++ id :: queue := by simp
  constructor
  case joins => exact h.joins
  case keys =>
    intro x hx
    rw [keys_release]
    exact h.keys x hx
  case nodup =>
    rw [hlist, List.nodup_append]
    refine ⟨h.nodup, nodup_release h.covers, ?_⟩
    rintro x hx y hy rfl
    exact h.freed_not_mem hy hx
  case subset =>
    intro x hx
    rw [hlist, List.mem_append] at hx
    rcases hx with hx | hx
    · exact h.subset x hx
    · exact h.joins.target_mem (h.mem_freed.1 hx).1
  case degree_eq =>
    intro x hx
    rw [degree_release _ (h.keys x hx), h.degree_eq x hx, held_append h.next_not_mem]
    push_cast
    omega
  case free =>
    -- what nothing holds back now was either free before, or `id` was its last source
    intro x hx hzero
    rw [hlist, List.mem_append]
    by_cases hlead : Leads links id x
    · exact Or.inr (h.mem_freed.2 ⟨hlead, held_eq_zero_iff.1 hzero⟩)
    · left
      apply h.free x hx
      have hcount : (successors links id).count x = 0 := by
        rw [List.count_eq_zero, mem_successors]
        exact hlead
      rw [held_append h.next_not_mem, hzero, hcount]
  case placed =>
    intro x hx a ha
    rw [hlist, List.mem_append] at hx
    rcases hx with hx | hx
    · exact List.mem_append_left _ (h.placed x hx a ha)
    · exact (h.mem_freed.1 hx).2 a ha
  case ordered =>
    -- every source listed so far stands at `id` or before it
    rw [hlist]
    apply h.ordered.append hidmem
    · intro x hx a ha
      exact h.idxOf_le_next (List.mem_append_left _ (h.placed x hx a ha))
    · intro y hy
      refine ⟨h.freed_not_mem hy, (h.mem_freed.1 hy).1, ?_⟩
      intro a ha
      have hmem := (h.mem_freed.1 hy).2 a ha
      exact ⟨hsub a hmem, h.idxOf_le_next hmem⟩

end Step

/-! ### Whole runs -/

theorem queue_eq_nil (h : Queued links ids done queue d) (hlen : ids.length ≤ done.length) :
    queue = [] := by
  have hle := h.length_le
  rw [List.length_append] at hle
  apply List.eq_nil_of_length_eq_zero
  omega

/-- As many ids may leave the queue as there are, so a run ends with an empty queue. -/
theorem run (n : Nat) (h : Queued links ids done queue d) (hn : ids.length ≤ n + done.length) :
    ∃ d', Queued links ids (done ++ Sequence.run links n queue d) [] d' := by
  -- the invariant goes from one queue to the next; without fuel every id has left the queue
  induction n generalizing done queue d with
  | zero =>
    have hnil : queue = [] := h.queue_eq_nil (by omega)
    subst hnil
    exact ⟨d, by simpa [Sequence.run] using h⟩
  | succ n ih =>
    cases queue with
    | nil => exact ⟨d, by simpa [Sequence.run] using h⟩
    | cons id queue =>
      have hlen : ids.length ≤ n + (done ++ [id]).length := by
        rw [List.length_append, List.length_singleton]
        omega
      rcases ih h.step hlen with ⟨d', hrun⟩
      refine ⟨d', ?_⟩
      rw [List.append_assoc, List.singleton_append] at hrun
      exact hrun

/-! ### Runs over a list that is in order -/

section InOrder

variable (h : Queued links order done (id :: queue) d) (hn : order.Nodup) {rest : List String}
  (hrest : done ++ id :: queue ++ rest = order)
include h hn hrest

/-- What is set free is what stands in the rest of the list and is not held back any more. -/
theorem mem_freed_iff_mem_rest : y ∈ (release (successors links id) d).1 ↔
    y ∈ rest.filter fun y => held links (done ++ [id]) y = 0 := by
  simp only [List.mem_filter, decide_eq_true_eq, held_eq_zero_iff, h.mem_freed]
  constructor
  · rintro ⟨hlead, hsrc⟩
    have hy : y ∈ order := h.joins.target_mem hlead
    rw [← hrest, List.mem_append] at hy
    rcases hy with hy | hy
    · exact absurd (h.placed y hy id hlead) h.next_not_mem
    · exact ⟨hy, hsrc⟩
  · rintro ⟨hy, hsrc⟩
    refine ⟨?_, hsrc⟩
    -- without `id` among its sources it would have been free before, and in the queue
    by_contra hlead
    have hdisjoint : y ∉ done ++ id :: queue := by
      intro hmem
      rw [← hrest, List.nodup_append] at hn
      exact hn.2.2 y hmem y hy rfl
    apply hdisjoint
    apply h.free y (hrest ▸ List.mem_append_right _ hy)
    rw [held_eq_zero_iff]
    intro a ha
    rcases List.mem_append.1 (hsrc a ha) with hdone | hdone
    · exact hdone
    · exact absurd (List.mem_singleton.1 hdone ▸ ha) hlead

/-- If targets stand in the order of the list, they are set free in this order. -/
theorem freed_eq (hsorted : (successors links id).Pairwise fun x y => order.idxOf x ≤ order.idxOf y) :
    (release (successors links id) d).1 = rest.filter fun y => held links (done ++ [id]) y = 0 := by
  have hsub : rest.Sublist order := hrest ▸ List.sublist_append_right _ _
  have hmem : ∀ y, y ∈ (release (successors links id) d).1 ↔
      y ∈ rest.filter fun y => held links (done ++ [id]) y = 0 :=
    fun y => h.mem_freed_iff_mem_rest hn hrest
  have hantisymm : ∀ x y, x ∈ (release (successors links id) d).1 →
      y ∈ rest.filter (fun y => held links (done ++ [id]) y = 0) →
        order.idxOf x ≤ order.idxOf y → order.idxOf y ≤ order.idxOf x → x = y := by
    intro x y hx _ hxy hyx
    have hxo := hsub.subset (List.mem_filter.1 ((hmem x).1 hx)).1
    exact (List.idxOf_inj hxo).1 (le_antisymm hxy hyx)
  -- both sides have the same members and are sorted by their places
  refine List.Perm.eq_of_pairwise hantisymm ?_ ?_ ?_
  · exact hsorted.sublist (release_sublist _ _)
  · apply ((pairwise_idxOf hn).sublist (List.filter_sublist.trans hsub)).imp
    intro x y hxy
    exact hxy.le
  · rw [List.perm_ext_iff_of_nodup (nodup_release h.covers) ((hn.sublist hsub).filter _)]
    exact hmem

omit h hn in
/-- By the order of the queue, what is held back stands behind what is not. -/
theorem filter_rest_prefix (ho : Ordered links order) :
    rest.filter (fun y => held links (done ++ [id]) y = 0) <+: rest := by
  have hsub : rest.Sublist order := hrest ▸ List.sublist_append_right _ _
  have hfirst : done ++ [id] <+: order := ⟨queue ++ rest, by simpa using hrest⟩
  rcases hfirst with ⟨tail, htail⟩
  apply filter_prefix
  apply (ho.fifo.sublist hsub).imp
  intro x y hxy hy
  simp only [decide_eq_true_eq, held_eq_zero_iff] at hy ⊢
  intro a ha
  rcases hxy a ha with ⟨b, hb, hle⟩
  have hbdone := hy b hb
  have hlt := List.idxOf_lt_length_iff.2 hbdone
  rw [← htail, idxOf_append hbdone] at hle
  by_contra hnot
  rw [List.idxOf_append_of_notMem hnot] at hle
  omega

end InOrder

/-- The ids that are set free stand next in the list. -/
theorem step_prefix (h : Queued links order done (id :: queue) d) (ho : Ordered links order) (hn : order.Nodup)
    (hsorted : ∀ a, (successors links a).Pairwise fun x y => order.idxOf x ≤ order.idxOf y)
    (hp : done ++ id :: queue <+: order) :
    done ++ [id] ++ (queue ++ (release (successors links id) d).1) <+: order := by
  rcases hp with ⟨rest, hrest⟩
  rcases filter_rest_prefix hrest ho with ⟨tail, htail⟩
  refine ⟨tail, ?_⟩
  calc done ++ [id] ++ (queue ++ (release (successors links id) d).1) ++ tail
      = done ++ id :: queue ++ ((release (successors links id) d).1 ++ tail) := by simp
    _ = done ++ id :: queue ++ rest := by rw [h.freed_eq hn hrest (hsorted id), htail]
    _ = order := hrest

theorem done_eq_of_prefix (h : Queued links order done [] d) (ho : Ordered links order)
    (hn : order.Nodup) (hp : done <+: order) : done = order := by
  rcases hp with ⟨rest, hrest⟩
  cases rest with
  | nil => simpa using hrest
  | cons y rest =>
    have hy : y ∈ order := by simp [← hrest]
    -- the next id would have all its sources listed, so it would have been queued
    have hnot : y ∉ done := by
      rw [← hrest] at hn
      exact hn.not_mem_before
    have hheld : held links done y = 0 := by
      rw [held_eq_zero_iff]
      intro a ha
      have hlt := (ho.sources y hy a ha).2
      rw [← hrest, List.idxOf_append_of_notMem hnot, List.idxOf_cons_self] at hlt
      by_contra hanot
      rw [List.idxOf_append_of_notMem hanot] at hlt
      omega
    have hmem := h.free y hy hheld
    rw [List.append_nil] at hmem
    exact absurd hmem hnot

theorem run_eq (n : Nat) (h : Queued links order done queue d) (ho : Ordered links order)
    (hn : order.Nodup)
    (hsorted : ∀ a, (successors links a).Pairwise fun x y => order.idxOf x ≤ order.idxOf y)
    (hp : done ++ queue <+: order) (hfuel : order.length ≤ n + done.length) :
    done ++ Sequence.run links n queue d = order := by
  -- every queue is a beginning of what is left of the list, so the list is left in its order
  induction n generalizing done queue d with
  | zero =>
    have hnil : queue = [] := h.queue_eq_nil (by omega)
    subst hnil
    simpa [Sequence.run] using h.done_eq_of_prefix ho hn (by simpa using hp)
  | succ n ih =>
    cases queue with
    | nil => simpa [Sequence.run] using h.done_eq_of_prefix ho hn (by simpa using hp)
    | cons id queue =>
      have hlen : order.length ≤ n + (done ++ [id]).length := by
        rw [List.length_append, List.length_singleton]
        omega
      have hrun := ih h.step (h.step_prefix ho hn hsorted hp) hlen
      rw [List.append_assoc, List.singleton_append] at hrun
      exact hrun

end Queued

/-! ## What a run leaves -/

structure DependencyOrder (links : List Connection) (ids order : List String) : Prop where
  nodup : order.Nodup
  subset : ∀ x ∈ order, x ∈ ids
  ordered : Ordered links order
  maximal : ∀ x ∈ ids, (∀ a, Leads links a x → a ∈ order) → x ∈ order

theorem Queued.dependencyOrder (h : Queued links ids done [] d) : DependencyOrder links ids done := by
  have happend : done ++ [] = done := List.append_nil done
  refine ⟨happend ▸ h.nodup, happend ▸ h.subset, happend ▸ h.ordered, ?_⟩
  intro x hx hsrc
  have hmem := h.free x hx (held_eq_zero_iff.2 hsrc)
  rwa [happend] at hmem

/-- What lies on a cycle, or behind one, is left over, and nothing else. -/
theorem DependencyOrder.not_mem_iff (h : DependencyOrder links ids order) (hj : Joins links ids) (hx : x ∈ ids) :
    x ∉ order ↔ ∃ a, OnCycle links a ∧ Relation.ReflTransGen (Leads links) a x := by
  constructor
  · intro hnot
    -- else something that leads to `x` has no source that is left over, and should have been taken
    by_contra hcycle
    let Left (y : String) : Prop := y ∈ ids ∧ y ∉ order ∧ Relation.ReflTransGen (Leads links) y x
    have hids : ∀ y, Left y → y ∈ ids := fun y hy => hy.1
    have hfree := exists_source_free hids
      ⟨x, hx, hnot, Relation.ReflTransGen.refl⟩ fun y hy honcycle => hcycle ⟨y, honcycle, hy.2.2⟩
    rcases hfree with ⟨y, ⟨hyids, hynot, hyx⟩, hsources⟩
    apply hynot
    apply h.maximal y hyids
    intro a ha
    by_contra hanot
    exact hsources a ⟨hj.source_mem ha, hanot, Relation.ReflTransGen.head ha hyx⟩ ha
  · rintro ⟨a, hcycle, hax⟩ hmem
    have ha : a ∈ order := by
      rcases Relation.reflTransGen_iff_eq_or_transGen.1 hax with rfl | hax
      · exact hmem
      · exact (h.ordered.idxOf_lt_of_transGen hax hmem).1
    exact h.ordered.not_onCycle ha hcycle

theorem DependencyOrder.mem_of_acyclic (h : DependencyOrder links ids order) (hj : Joins links ids)
    (hac : Acyclic links) (hx : x ∈ ids) : x ∈ order := by
  by_contra hnot
  rcases (h.not_mem_iff hj hx).1 hnot with ⟨a, hcycle, -⟩
  exact hac a hcycle

end Sequence

/-! ## The order of a topology -/

namespace Topology

open Sequence

variable {t : Topology} {i : ResourceInstance} {id : String}

theorem order_dependencyOrder (hd : t.DistinctIds) : DependencyOrder t.links t.ids t.order := by
  have hstart := Queued.start t.links_joins hd
  rcases hstart.run t.instances.length (by simp [ids]) with ⟨d, hrun⟩
  exact hrun.dependencyOrder

/-- A topology that is listed in order already stays as it is. -/
theorem order_eq_ids (hd : t.DistinctIds) (ho : Ordered t.links t.ids)
    (hsorted : ∀ a, (successors t.links a).Pairwise fun x y => t.ids.idxOf x ≤ t.ids.idxOf y) :
    t.order = t.ids := by
  have hstart := Queued.start t.links_joins hd
  apply hstart.run_eq t.instances.length ho hd hsorted
  · rw [List.nil_append]
    apply filter_prefix
    apply ho.fifo.imp_of_mem
    intro x y hx hy hxy hroot
    have hy0 : held t.links [] y = 0 := by
      have hcast := hstart.degree_eq y hy
      rw [of_decide_eq_true hroot] at hcast
      exact_mod_cast hcast.symm
    have hx0 : held t.links [] x = 0 := by
      rw [held_eq_zero_iff] at hy0 ⊢
      intro a ha
      rcases hxy a ha with ⟨b, hb, -⟩
      exact absurd (hy0 b hb) List.not_mem_nil
    rw [hstart.degree_eq x hx, hx0]
    rfl
  · simp [ids]

/-! ### Instances in order -/

theorem mem_unsequenced :
    i ∈ t.sequence.unsequenced ↔ i ∈ t.instances ∧ i.id ∉ t.order := by
  simp [sequence]

theorem unsequenced_eq_nil_iff (hd : t.DistinctIds) :
    t.sequence.unsequenced = [] ↔ Acyclic t.links := by
  have horder := order_dependencyOrder hd
  constructor
  · intro hnil a hcycle
    rcases List.mem_map.1 (t.links_joins.mem_of_onCycle hcycle) with ⟨i, hi, rfl⟩
    have hmem : i.id ∈ t.order := by
      by_contra hnot
      have hleft := mem_unsequenced.2 ⟨hi, hnot⟩
      rw [hnil] at hleft
      exact List.not_mem_nil hleft
    exact horder.ordered.not_onCycle hmem hcycle
  · intro hac
    rw [List.eq_nil_iff_forall_not_mem]
    intro i hi
    rcases mem_unsequenced.1 hi with ⟨hmem, hnot⟩
    exact hnot (horder.mem_of_acyclic t.links_joins hac (mem_ids_of_mem hmem))

/-- Every instance in the order is the last one with its id, for any topology. -/
theorem findLast?_of_mem_ordered (hi : i ∈ t.sequence.ordered) : t.findLast? i.id = some i := by
  rcases List.mem_filterMap.1 hi with ⟨x, -, hx⟩
  have hid : i.id = x := by simpa using List.find?_some hx
  rwa [hid]

theorem filterMap_find?_map_id (hd : t.DistinctIds) {instances : List ResourceInstance}
    (hsub : ∀ i ∈ instances, i ∈ t.instances) :
    (instances.map ResourceInstance.id).filterMap t.find? = instances := by
  rw [List.filterMap_map]
  have hself : ∀ i ∈ instances, (t.find? ∘ ResourceInstance.id) i = some i := by
    intro i hi
    exact (find?_eq_some_iff hd).2 ⟨hsub i hi, rfl⟩
  rw [List.filterMap_congr hself, List.filterMap_some]

theorem filterMap_find?_ids (hd : t.DistinctIds) : t.ids.filterMap t.find? = t.instances :=
  filterMap_find?_map_id hd fun _ hi => hi

theorem ordered_eq_filterMap_find? (hd : t.DistinctIds) :
    t.sequence.ordered = t.order.filterMap t.find? := by
  have hfind : t.findLast? = t.find? := funext fun id => findLast?_eq_find? hd
  rw [sequence, hfind]

theorem mem_ordered (hd : t.DistinctIds) : i ∈ t.sequence.ordered ↔ i ∈ t.instances ∧ i.id ∈ t.order := by
  simp only [ordered_eq_filterMap_find? hd, List.mem_filterMap, find?_eq_some_iff hd]
  constructor
  · rintro ⟨id, hid, hi, rfl⟩
    exact ⟨hi, hid⟩
  · rintro ⟨hi, hid⟩
    exact ⟨i.id, hid, hi, rfl⟩

theorem map_id_ordered (hd : t.DistinctIds) : t.sequence.ordered.map ResourceInstance.id = t.order := by
  rw [ordered_eq_filterMap_find? hd, List.map_filterMap]
  have hsub := (order_dependencyOrder hd).subset
  have hself : ∀ x ∈ t.order, (t.find? x).map ResourceInstance.id = some x := by
    intro x hx
    rcases List.mem_map.1 (hsub x hx) with ⟨i, hi, rfl⟩
    rw [(find?_eq_some_iff hd).2 ⟨hi, rfl⟩]
    rfl
  rw [List.filterMap_congr hself, List.filterMap_some]

/-- Every instance is in order or left over, and once. -/
theorem ordered_append_unsequenced_perm (hd : t.DistinctIds) :
    (t.sequence.ordered ++ t.sequence.unsequenced).Perm t.instances := by
  have hordered : t.sequence.ordered.Nodup := by
    apply List.Nodup.of_map ResourceInstance.id
    rw [map_id_ordered hd]
    exact (order_dependencyOrder hd).nodup
  have hinstances : t.instances.Nodup := List.Nodup.of_map ResourceInstance.id hd
  have hplaced : t.sequence.ordered.Perm (t.instances.filter fun i => t.order.contains i.id) := by
    rw [List.perm_ext_iff_of_nodup hordered (hinstances.filter _)]
    intro i
    rw [mem_ordered hd, List.mem_filter, List.contains_iff_mem]
  exact (hplaced.append_right _).trans (List.filter_append_perm _ _)

theorem ordered_perm (hd : t.DistinctIds) (hac : Acyclic t.links) :
    t.sequence.ordered.Perm t.instances := by
  have hperm := ordered_append_unsequenced_perm hd
  rwa [(unsequenced_eq_nil_iff hd).2 hac, List.append_nil] at hperm

end Topology
end HostTopology
