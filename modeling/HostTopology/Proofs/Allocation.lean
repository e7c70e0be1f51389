import HostTopology.Proofs.Numbering

/-!
# Allocation — ids that are handed out one by one

`freshIds` lists the ids of an import at once. Here they come call by call, from an allocator that counts up: the
id of the number that comes next is handed out unless it is reserved, and it is reserved from then on.

* `Call`, `Calls` — turns up to the next id, and such calls one after the other, with the number of their turns;
* `call_allocate` — every call ends, and hands out what `allocate` finds;
* `Calls.turns_le` — the turns of many calls together, as each of them leaves a reserved id behind or ends a call;
* `AreFirst` — the smallest numbers with a property, in order;
* `calls_freshIds` — as many calls as are wanted end, and hand out exactly `freshIds`.
-/

namespace HostTopology

variable {reserved : List String} {count : Nat}

/-! ## The smallest numbers with a property -/

/-- The numbers have the property, and any other that has it is larger than all of them. -/
structure AreFirst (p : Nat → Prop) (numbers : List Nat) : Prop where
  increasing : numbers.Pairwise (· < ·)
  holds : ∀ n ∈ numbers, p n
  least : ∀ n ∈ numbers, ∀ m, p m → m ∉ numbers → n < m

namespace AreFirst

variable {p : Nat → Prop} {n m : Nat} {numbers numbers' : List Nat}

theorem head_le (h : AreFirst p (n :: numbers)) (hm : p m) : n ≤ m := by
  by_cases hmem : m ∈ n :: numbers
  · rcases List.mem_cons.1 hmem with rfl | hmem
    · exact Nat.le_refl m
    · exact Nat.le_of_lt ((List.pairwise_cons.1 h.increasing).1 m hmem)
  · exact Nat.le_of_lt (h.least n List.mem_cons_self m hm hmem)

/-- Behind the smallest number come the smallest of the others. -/
theorem tail (h : AreFirst p (n :: numbers)) : AreFirst (fun m => p m ∧ n < m) numbers := by
  obtain ⟨hhead, htail⟩ := List.pairwise_cons.1 h.increasing
  refine ⟨htail, fun m hm => ⟨h.holds m (List.mem_cons_of_mem n hm), hhead m hm⟩, ?_⟩
  rintro k hk m ⟨hm, hlt⟩ hnot
  refine h.least k (List.mem_cons_of_mem n hk) m hm fun hmem => ?_
  rcases List.mem_cons.1 hmem with rfl | hmem
  · exact Nat.lt_irrefl m hlt
  · exact hnot hmem

theorem cons (hn : p n) (hle : ∀ m, p m → n ≤ m) (h : AreFirst (fun m => p m ∧ n < m) numbers) :
    AreFirst p (n :: numbers) := by
  have hbehind : ∀ m, p m → m ∉ n :: numbers → n < m := by
    intro m hm hnot
    rw [List.mem_cons, not_or] at hnot
    exact Nat.lt_of_le_of_ne (hle m hm) fun heq => hnot.1 heq.symm
  refine ⟨List.pairwise_cons.2 ⟨fun m hm => (h.holds m hm).2, h.increasing⟩, ?_, ?_⟩
  · intro m hm
    rcases List.mem_cons.1 hm with rfl | hm
    · exact hn
    · exact (h.holds m hm).1
  · intro k hk m hm hnot
    rcases List.mem_cons.1 hk with rfl | hk
    · exact hbehind m hm hnot
    · exact h.least k hk m ⟨hm, hbehind m hm hnot⟩ fun hmem => hnot (List.mem_cons_of_mem n hmem)

/-- There is one list of a length. -/
theorem unique (h : AreFirst p numbers) (h' : AreFirst p numbers') (hlength : numbers.length = numbers'.length) :
    numbers = numbers' := by
  induction numbers generalizing p numbers' with
  | nil => exact (List.eq_nil_of_length_eq_zero hlength.symm).symm
  | cons n numbers ih =>
    cases numbers' with
    | nil => cases hlength
    | cons m numbers' =>
      obtain rfl : n = m :=
        Nat.le_antisymm (h.head_le (h'.holds m List.mem_cons_self)) (h'.head_le (h.holds n List.mem_cons_self))
      rw [ih h.tail h'.tail (Nat.succ.inj hlength)]

end AreFirst

/-- The numbers of a range from `first` on that have the property, as any others come behind the range. -/
theorem areFirst_filter (first length : Nat) (q : Nat → Bool) :
    AreFirst (fun n => first ≤ n ∧ q n = true) (((List.range length).map (first + ·)).filter q) := by
  have hrange : ∀ n, n ∈ (List.range length).map (first + ·) ↔ first ≤ n ∧ n < first + length := by
    intro n
    simp only [List.mem_map, List.mem_range]
    constructor
    · rintro ⟨k, hk, rfl⟩
      omega
    · rintro ⟨hle, hlt⟩
      exact ⟨n - first, by omega, by omega⟩
  have hincreasing : ((List.range length).map (first + ·)).Pairwise (· < ·) :=
    List.pairwise_lt_range.map _ fun _ _ h => Nat.add_lt_add_left h first
  refine ⟨hincreasing.filter q, ?_, ?_⟩
  · intro n hn
    obtain ⟨hn, hq⟩ := List.mem_filter.1 hn
    exact ⟨((hrange n).1 hn).1, hq⟩
  · rintro n hn m ⟨hle, hq⟩ hnot
    -- a number that has the property and is left out lies behind the range
    have hlt := ((hrange n).1 (List.mem_filter.1 hn).1).2
    have hout : ¬ m < first + length := fun hlt => hnot (List.mem_filter.2 ⟨(hrange m).2 ⟨hle, hlt⟩, hq⟩)
    omega

theorem AreFirst.take {p : Nat → Prop} {numbers : List Nat} (h : AreFirst p numbers) (count : Nat) :
    AreFirst p (numbers.take count) := by
  refine ⟨h.increasing.take, fun n hn => h.holds n (List.mem_of_mem_take hn), ?_⟩
  intro n hn m hm hnot
  by_cases hmem : m ∈ numbers
  · -- what has the property and is not among the first ones stands behind them
    have hincreasing := h.increasing
    rw [← List.take_append_drop count numbers, List.mem_append] at hmem
    rw [← List.take_append_drop count numbers, List.pairwise_append] at hincreasing
    exact hincreasing.2.2 n hn m (hmem.resolve_left hnot)
  · exact h.least n (List.mem_of_mem_take hn) m hm hmem

/-! ## An allocator -/

namespace IdAllocator

variable {a b c : IdAllocator} {id : String} {ids : List String} {turns turns' n : Nat}

/-- Turns of the loop up to the first one that hands out an id. -/
inductive Call : IdAllocator → Nat → String → IdAllocator → Prop
  | done {a b : IdAllocator} {id : String} (h : a.turn = (some id, b)) : Call a 1 id b
  | more {a b c : IdAllocator} {turns : Nat} {id : String} (h : a.turn = (none, b)) (rest : Call b turns id c) :
      Call a (turns + 1) id c

/-- Calls one after the other, with the number of turns that they take together. -/
inductive Calls : IdAllocator → Nat → List String → IdAllocator → Prop
  | nil (a : IdAllocator) : Calls a 0 [] a
  | cons {a b c : IdAllocator} {turns turns' : Nat} {id : String} {ids : List String}
      (first : Call a turns id b) (rest : Calls b turns' ids c) : Calls a (turns + turns') (id :: ids) c

/-! ### How many turns there are -/

theorem ahead_start_le (reserved : List String) : (start reserved).ahead ≤ reserved.length :=
  List.countP_le_length

/-- An id that is handed out becomes a reserved one, but it is behind the next number. -/
theorem ahead_give_le (a : IdAllocator) : a.give.ahead ≤ a.ahead := by
  rw [ahead, give, List.countP_cons_of_neg (not_isAhead_next a.next)]
  exact countP_isAhead_le a.next a.reserved

theorem Call.turns_le (h : Call a turns id b) : turns + b.ahead ≤ a.ahead + 1 := by
  induction h with
  | done h =>
    obtain ⟨-, -, rfl⟩ := turn_eq_some_iff.1 h
    exact (Nat.add_comm _ _).trans_le (Nat.succ_le_succ (ahead_give_le _))
  | more h _ ih =>
    obtain ⟨hmem, rfl⟩ := turn_eq_none_iff.1 h
    have hlt := ahead_pass_lt hmem
    omega

theorem Calls.turns_le (h : Calls a turns ids b) : turns + b.ahead ≤ a.ahead + ids.length := by
  induction h with
  | nil a => exact Nat.le_of_eq (Nat.zero_add _)
  | cons first _ ih =>
    have hfirst := first.turns_le
    rw [List.length_cons]
    omega

/-- The loop ends. -/
theorem call_allocate (a : IdAllocator) : ∃ turns, Call a turns a.allocate.1 a.allocate.2 := by
  fun_induction allocate a with
  | case1 a id b h => exact ⟨1, .done h⟩
  | case2 a b h ih =>
    obtain ⟨turns, hcall⟩ := ih
    exact ⟨turns + 1, .more h hcall⟩

/-- One call more. -/
theorem Calls.concat (h : Calls a turns ids b) (last : Call b turns' id c) :
    ∃ turns, Calls a turns (ids ++ [id]) c := by
  induction h with
  | nil b => exact ⟨_, .cons last (.nil c)⟩
  | cons first _ ih =>
    obtain ⟨turns, hrest⟩ := ih last
    exact ⟨_, .cons first hrest⟩

theorem exists_calls (a : IdAllocator) (count : Nat) : ∃ turns ids b, Calls a turns ids b ∧ ids.length = count := by
  induction count generalizing a with
  | zero => exact ⟨0, [], a, .nil a, rfl⟩
  | succ count ih =>
    obtain ⟨turns, hfirst⟩ := call_allocate a
    obtain ⟨turns', ids, c, hrest, hlength⟩ := ih a.allocate.2
    exact ⟨_, _, c, .cons hfirst hrest, congrArg Nat.succ hlength⟩

/-! ### Which ids are handed out -/

/-- A number that is still to come, and of no reserved id. -/
def IsFree (a : IdAllocator) (n : Nat) : Prop :=
  a.next ≤ n ∧ importedId n ∉ a.reserved

theorem isFree_pass_iff (h : importedId a.next ∈ a.reserved) : a.pass.IsFree n ↔ a.IsFree n := by
  refine ⟨fun hfree => ⟨Nat.le_of_succ_le hfree.1, hfree.2⟩, fun hfree => ⟨?_, hfree.2⟩⟩
  refine Nat.lt_of_le_of_ne hfree.1 ?_
  rintro rfl
  exact hfree.2 h

theorem isFree_give_iff : a.give.IsFree n ↔ a.IsFree n ∧ a.next < n := by
  have hother : a.next < n → importedId n ≠ importedId a.next :=
    fun hlt heq => Nat.lt_irrefl n (importedId_inj heq ▸ hlt)
  simp only [IsFree, give, List.mem_cons, not_or, Nat.succ_le_iff]
  constructor
  · rintro ⟨hlt, -, hnot⟩
    exact ⟨⟨hlt.le, hnot⟩, hlt⟩
  · rintro ⟨⟨-, hnot⟩, hlt⟩
    exact ⟨hlt, hother hlt, hnot⟩

/-- A call hands out the id of the smallest free number, and leaves the larger ones free. -/
theorem Call.least (h : Call a turns id b) : ∃ n, importedId n = id ∧ a.IsFree n ∧ (∀ m, a.IsFree m → n ≤ m) ∧
    ∀ m, b.IsFree m ↔ a.IsFree m ∧ n < m := by
  induction h with
  | @done a b id h =>
    obtain ⟨hnot, rfl, rfl⟩ := turn_eq_some_iff.1 h
    exact ⟨a.next, rfl, ⟨Nat.le_refl _, hnot⟩, fun m hm => hm.1, fun m => isFree_give_iff⟩
  | more h _ ih =>
    obtain ⟨hmem, rfl⟩ := turn_eq_none_iff.1 h
    simpa only [isFree_pass_iff hmem] using ih

theorem Calls.areFirst (h : Calls a turns ids b) :
    ∃ numbers, ids = numbers.map importedId ∧ AreFirst a.IsFree numbers := by
  induction h with
  | nil a => exact ⟨[], rfl, .nil, by simp, by simp⟩
  | @cons a b c turns turns' id ids first _ ih =>
    obtain ⟨n, rfl, hn, hle, hfree⟩ := first.least
    obtain ⟨numbers, rfl, hnumbers⟩ := ih
    have hbehind : b.IsFree = fun m => a.IsFree m ∧ n < m := funext fun m => propext (hfree m)
    exact ⟨n :: numbers, rfl, .cons hn hle (hbehind ▸ hnumbers)⟩

end IdAllocator

/-! ## The ids of an import -/

open IdAllocator

theorem areFirst_freshNumbers (reserved : List String) (count : Nat) :
    AreFirst (start reserved).IsFree (freshNumbers reserved count) := by
  have hfree : (start reserved).IsFree =
      fun n => firstImportedId ≤ n ∧ (!reserved.contains (importedId n)) = true := by
    funext n
    simp [IsFree, start]
  rw [hfree]
  exact (areFirst_filter _ _ _).take count

theorem IdAllocator.Calls.eq_freshIds {turns : Nat} {ids : List String} {last : IdAllocator}
    (h : Calls (start reserved) turns ids last) : ids = freshIds reserved ids.length := by
  obtain ⟨numbers, rfl, hnumbers⟩ := h.areFirst
  rw [List.length_map, freshIds_eq]
  exact congrArg _ (hnumbers.unique (areFirst_freshNumbers reserved _) (length_freshNumbers reserved _).symm)

/-- Whatever is reserved, as many calls as are wanted end, after one turn for each of them and for each reserved id at
most. They hand out `freshIds` and nothing else: the ids of the smallest numbers from 1000 on whose ids are not
reserved, in order. -/
theorem calls_freshIds (reserved : List String) (count : Nat) :
    (∃ turns last, Calls (start reserved) turns (freshIds reserved count) last ∧ turns ≤ count + reserved.length) ∧
      (∀ ids, (∃ turns last, Calls (start reserved) turns ids last ∧ ids.length = count) ↔
        ids = freshIds reserved count) ∧
        ∃ numbers, freshIds reserved count = numbers.map importedId ∧ numbers.length = count ∧
          AreFirst (fun n => 1000 ≤ n ∧ importedId n ∉ reserved) numbers := by
  obtain ⟨turns, ids, last, hcalls, rfl⟩ := exists_calls (start reserved) count
  have hids := hcalls.eq_freshIds
  refine ⟨⟨turns, last, hids ▸ hcalls, ?_⟩, fun ids' => ⟨?_, ?_⟩, freshNumbers reserved ids.length, ?_, ?_, ?_⟩
  · have hturns := hcalls.turns_le
    have hahead := ahead_start_le reserved
    omega
  · rintro ⟨turns', last', hcalls', hlength⟩
    rw [hcalls'.eq_freshIds, hlength]
  · rintro rfl
    exact ⟨turns, last, hids ▸ hcalls, length_freshIds _ _⟩
  · exact freshIds_eq _ _
  · exact length_freshNumbers _ _
  · exact areFirst_freshNumbers _ _

end HostTopology
