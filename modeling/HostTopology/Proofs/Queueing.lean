import HostTopology.Proofs.Degrees

/-!
# Queueing — the queue ends, also where ids repeat

The instances of a topology may share an id. Then an id can leave the queue more than once, and a link is taken
away as often as its source leaves: the numbers beside the queue can fall below zero. An id is still set free once
at most, since its number only falls and passes zero once.

* `Loop.EndsAfter` — a loop ends after so many turns; `Loop.exists_endsAfter` finds the number by a measure;
* `dequeue` — one turn of the queue, with no bound on how many there are;
* `owed`, `Accounted` — how often an id can still be set free, and with it the number of times that an id has left
  the queue, waits in it or is still to come;
* `endsAfter_dequeue` — the queue is empty after as many turns as ids are in the order that `Sequence.run` gives,
  and these turns belong to different instances.
-/

namespace HostTopology

/-! ## Loops -/

namespace Loop

variable {σ : Type} {step : σ → Option σ} {s s' last : σ} {n m : Nat}

/-- The state after so many turns, if the loop gets that far. -/
def turns (step : σ → Option σ) : Nat → σ → Option σ
  | 0, s => some s
  | n + 1, s => (step s).bind (turns step n)

/-- The loop takes exactly so many turns. -/
def EndsAfter (step : σ → Option σ) (n : Nat) (s last : σ) : Prop :=
  turns step n s = some last ∧ step last = none

theorem endsAfter_zero_iff : EndsAfter step 0 s last ↔ s = last ∧ step s = none := by
  simp only [EndsAfter, turns, Option.some.injEq]
  constructor
  · rintro ⟨rfl, hend⟩
    exact ⟨rfl, hend⟩
  · rintro ⟨rfl, hend⟩
    exact ⟨rfl, hend⟩

theorem endsAfter_succ_iff : EndsAfter step (n + 1) s last ↔ ∃ s', step s = some s' ∧ EndsAfter step n s' last := by
  simp only [EndsAfter, turns, Option.bind_eq_some_iff]
  constructor
  · rintro ⟨⟨s', hstep, hturns⟩, hend⟩
    exact ⟨s', hstep, hturns, hend⟩
  · rintro ⟨s', hstep, hturns, hend⟩
    exact ⟨⟨s', hstep, hturns⟩, hend⟩

/-- What each turn keeps, and a measure that it makes smaller, give the number of turns and what holds at the end. -/
theorem exists_endsAfter {I : σ → Prop} (measure : σ → Nat)
    (hturn : ∀ s s', I s → step s = some s' → I s' ∧ measure s' < measure s) (h : I s) :
    ∃ n last, EndsAfter step n s last ∧ n ≤ measure s ∧ I last := by
  induction hm : measure s using Nat.strong_induction_on generalizing s with
  | _ m ih =>
    subst hm
    cases hstep : step s with
    | none => exact ⟨0, s, endsAfter_zero_iff.2 ⟨rfl, hstep⟩, Nat.zero_le _, h⟩
    | some s' =>
      obtain ⟨hkept, hless⟩ := hturn s s' h hstep
      obtain ⟨n, last, hend, hle, hlast⟩ := ih (measure s') hless hkept rfl
      exact ⟨n + 1, last, endsAfter_succ_iff.2 ⟨s', hstep, hend⟩, hle.trans_lt hless, hlast⟩

end Loop

/-! ## The queue -/

namespace Sequence

variable {links : List Connection} {ids succs : List String} {x : String} {d : Degrees} {n m : Nat}

/-- What the loop works on. -/
structure Queue where
  order : List String
  waiting : List String
  degrees : Degrees
deriving DecidableEq, Repr

/-- The first id leaves the queue, and those that this sets free queue behind. -/
def dequeue (links : List Connection) (q : Queue) : Option Queue :=
  match q.waiting with
  | [] => none
  | id :: waiting =>
    let (freed, degrees) := release (successors links id) q.degrees
    some ⟨q.order ++ [id], waiting ++ freed, degrees⟩

/-- The ids that no link leads to, in topology order and as often as they occur. -/
def startQueue (ids : List String) (links : List Connection) : Queue where
  order := []
  waiting := ids.filter fun id => degree id (startDegrees ids links) = 0
  degrees := startDegrees ids links

variable {q q' last : Queue}

theorem dequeue_eq_none_iff : dequeue links q = none ↔ q.waiting = [] := by
  rw [dequeue]
  split
  · rename_i hwaiting
    simp [hwaiting]
  · rename_i hwaiting
    simp [hwaiting]

theorem dequeue_eq_some_iff : dequeue links q = some q' ↔ ∃ id waiting, q.waiting = id :: waiting ∧
    q' = ⟨q.order ++ [id], waiting ++ (release (successors links id) q.degrees).1,
      (release (successors links id) q.degrees).2⟩ := by
  rw [dequeue]
  split
  · rename_i hwaiting
    simp [hwaiting]
  · rename_i hwaiting
    simp [hwaiting, eq_comm]

/-- With enough fuel `run` lists the ids in the order in which they leave the queue. -/
theorem order_of_endsAfter (h : Loop.EndsAfter (dequeue links) n q last) (hn : n ≤ m) :
    last.order = q.order ++ run links m q.waiting q.degrees := by
  induction n generalizing q m with
  | zero =>
    obtain ⟨rfl, hend⟩ := Loop.endsAfter_zero_iff.1 h
    rw [dequeue_eq_none_iff.1 hend]
    cases m <;> simp [run]
  | succ n ih =>
    obtain ⟨q', hturn, h⟩ := Loop.endsAfter_succ_iff.1 h
    obtain ⟨id, waiting, hwaiting, rfl⟩ := dequeue_eq_some_iff.1 hturn
    cases m with
    | zero => exact absurd hn (Nat.not_succ_le_zero n)
    | succ m =>
      -- a turn takes one unit of fuel
      rw [ih h (Nat.le_of_succ_le_succ hn), hwaiting, run]
      simp

theorem length_order_of_endsAfter (h : Loop.EndsAfter (dequeue links) n q last) :
    last.order.length = q.order.length + n := by
  induction n generalizing q with
  | zero =>
    obtain ⟨rfl, -⟩ := Loop.endsAfter_zero_iff.1 h
    rfl
  | succ n ih =>
    obtain ⟨q', hturn, h⟩ := Loop.endsAfter_succ_iff.1 h
    obtain ⟨id, waiting, -, rfl⟩ := dequeue_eq_some_iff.1 hturn
    rw [ih h, List.length_append, List.length_singleton]
    omega

/-! ## The account of an id -/

/-- How often an id can still be set free. -/
def owed (x : String) (d : Degrees) : Nat :=
  if 0 < degree x d then 1 else 0

theorem owed_le_one (x : String) (d : Degrees) : owed x d ≤ 1 := by
  rw [owed]
  split_ifs <;> omega

/-- One link less sets an id free at most once, and then it is owed no more. -/
theorem owed_lower {y : String} (x : String) (hy : y ∈ Degrees.keys d) :
    (if degree y (lower y d) = 0 ∧ y = x then 1 else 0) + owed x (lower y d) ≤ owed x d := by
  by_cases hyx : y = x
  · -- from one to zero the id is set free; further down it was owed nothing before
    subst hyx
    have hless : degree y (lower y d) = degree y d - 1 := by simp [degree_lower hy]
    simp only [owed, hless, and_true]
    split_ifs <;> omega
  · have hsame : degree x (lower y d) = degree x d := by
      rw [degree, degree, lookup_lower]
      simp [hyx]
    simp [owed, hsame, hyx]

theorem release_owed (x : String) (h : ∀ y ∈ succs, y ∈ Degrees.keys d) :
    (release succs d).1.count x + owed x (release succs d).2 ≤ owed x d := by
  induction succs generalizing d with
  | nil => simp [release]
  | cons y succs ih =>
    rw [List.forall_mem_cons] at h
    have hrest := ih (d := lower y d) fun z hz => by
      rw [keys_lower]
      exact h.2 z hz
    -- an id that is released is no longer owed
    have hfirst := owed_lower x h.1
    have hcount : (release (y :: succs) d).1.count x =
        (release succs (lower y d)).1.count x + if degree y (lower y d) = 0 ∧ y = x then 1 else 0 := by
      rw [release_cons]
      by_cases hfree : degree y (lower y d) = 0 <;> simp [hfree, List.count_cons]
    have hlast : (release (y :: succs) d).2 = (release succs (lower y d)).2 := by
      rw [release_cons]
    rw [hcount, hlast]
    omega

/-- Each id has left the queue, waits or is owed, and this no more often than it occurs. -/
structure Accounted (ids : List String) (q : Queue) : Prop where
  keys : ∀ x ∈ ids, x ∈ Degrees.keys q.degrees
  count : ∀ x, (q.order ++ q.waiting).count x + owed x q.degrees ≤ ids.count x

namespace Accounted

/-- An id waits as often as it occurs, or it is held back and owed once. -/
theorem start (ids : List String) (links : List Connection) : Accounted ids (startQueue ids links) where
  keys x hx := by
    rw [startQueue, keys_startDegrees]
    exact List.mem_eraseDups.2 hx
  count x := by
    show (ids.filter fun id => degree id (startDegrees ids links) = 0).count x + owed x (startDegrees ids links) ≤ _
    by_cases hfree : degree x (startDegrees ids links) = 0
    · have hpaid : owed x (startDegrees ids links) = 0 := by simp [owed, hfree]
      rw [List.count_filter (by simpa using hfree), hpaid, Nat.add_zero]
    · have hwaiting : x ∉ ids.filter fun id => degree id (startDegrees ids links) = 0 :=
        fun hmem => hfree (by simpa using (List.mem_filter.1 hmem).2)
      have hx : x ∈ ids := by
        by_contra hnot
        rw [← List.mem_eraseDups, ← keys_startDegrees ids links] at hnot
        exact hfree (degree_of_notMem hnot)
      have hoccurs := List.count_pos_iff.2 hx
      have howed := owed_le_one x (startDegrees ids links)
      rw [List.count_eq_zero.2 hwaiting]
      omega

theorem subperm (h : Accounted ids q) : (q.order ++ q.waiting).Subperm ids :=
  List.subperm_ext_iff.2 fun x _ => (Nat.le_add_right _ _).trans (h.count x)

theorem subperm_order (h : Accounted ids q) : q.order.Subperm ids :=
  (List.sublist_append_left _ _).subperm.trans h.subperm

theorem length_order_le (h : Accounted ids q) : q.order.length ≤ ids.length :=
  h.subperm_order.length_le

theorem turn (h : Accounted ids q) (hj : Joins links ids) (hturn : dequeue links q = some q') : Accounted ids q' := by
  obtain ⟨id, waiting, hwaiting, rfl⟩ := dequeue_eq_some_iff.1 hturn
  have hsuccs : ∀ y ∈ successors links id, y ∈ Degrees.keys q.degrees :=
    fun y hy => h.keys y (hj.target_mem (mem_successors.1 hy))
  constructor
  · intro x hx
    rw [keys_release]
    exact h.keys x hx
  · intro x
    have hcount := h.count x
    have hfreed := release_owed x hsuccs
    rw [hwaiting] at hcount
    simp only [List.count_append, List.count_cons, List.count_nil] at hcount ⊢
    omega

end Accounted

/-! ## The end of the queue -/

theorem endsAfter_dequeue (hj : Joins links ids) : ∃ last,
    Loop.EndsAfter (dequeue links) last.order.length (startQueue ids links) last ∧ last.order.Subperm ids := by
  have hturn : ∀ q q', Accounted ids q → dequeue links q = some q' →
      Accounted ids q' ∧ ids.length - q'.order.length < ids.length - q.order.length := by
    intro q q' h hturn
    have hkept := h.turn hj hturn
    refine ⟨hkept, ?_⟩
    have hle := hkept.length_order_le
    obtain ⟨id, waiting, -, rfl⟩ := dequeue_eq_some_iff.1 hturn
    simp only [List.length_append, List.length_singleton] at hle ⊢
    omega
  obtain ⟨n, last, hend, -, hlast⟩ := Loop.exists_endsAfter _ hturn (Accounted.start ids links)
  have hn : last.order.length = n := by
    rw [length_order_of_endsAfter hend]
    exact Nat.zero_add n
  exact ⟨last, hn ▸ hend, hlast.subperm_order⟩

/-- Where `a` stands twice, `b` is set free when the first one leaves, and its number falls below zero afterwards. -/
example :
    let links := [Connection.make "" "a" "b" .reference]
    let start := startQueue ["a", "a", "b"] links
    Loop.turns (dequeue links) 3 start = some ⟨["a", "a", "b"], [], [("a", 0), ("b", -1)]⟩ := by
  decide

end Sequence

/-- What the queue of a topology starts with. -/
def Topology.queue (t : Topology) : Sequence.Queue :=
  Sequence.startQueue t.ids t.links

/-- The queue of a topology ends with its order. No more ids leave it than there are instances, and each as often as
the topology has instances with it. -/
theorem Topology.endsAfter_dequeue (t : Topology) : ∃ last,
    Loop.EndsAfter (Sequence.dequeue t.links) t.order.length t.queue last ∧ last.order = t.order ∧
      t.order.Subperm t.ids := by
  obtain ⟨last, hend, hsub⟩ := Sequence.endsAfter_dequeue t.links_joins
  have hle : last.order.length ≤ t.instances.length := by
    have hids : t.ids.length = t.instances.length := List.length_map _
    exact hids ▸ hsub.length_le
  have horder : last.order = t.order := Sequence.order_of_endsAfter hend hle
  exact ⟨last, horder ▸ hend, horder, horder ▸ hsub⟩

end HostTopology
