import HostTopology.Proofs.Links
import HostTopology.Validation.Cycle
import Mathlib.Data.List.Chain

/-!
# Cycle — what the search for cycles enters, reports and leaves behind

* `IsCycle` — a list of ids, each with a link to the next and the last with one to the first;
* `Path` — the stack of a search is a walk, and what a frame has still to look at are targets of its node;
* `halt` — the stack on which a search ends: empty, or with a cycle on it (`closed?`) and the nodes through which
  the search came to it (`approach`). From it `isCycle_of_mem_searchAll`: what is reported is a cycle;
* `Finished`, `Walk` — an id is finished when it is no longer fresh and not on the stack. Links lead from finished
  ids to finished ids only, and no finished id lies on a cycle. `Walk.halt` carries this through a search, and
  `Walk.abandon` on to the next one, for the links that keep clear of the nodes that were on the stack;
* `acyclic_avoiding_halts` — all cycles meet a node that a search has left on its stack.

Together, `Topology.cycles_eq_nil_iff`: no cycle is reported if and only if there is none.
-/

namespace HostTopology
namespace Cycle

open Sequence (mem_successors)

variable {links core : List Connection} {ids fresh : List String} {stack below : Stack} {node next : String}
  {rest : List String} {x y : String}

/-! ## Cycles -/

structure IsCycle (links : List Connection) (cycle : List String) : Prop where
  ne_nil : cycle ≠ []
  nodup : cycle.Nodup
  chain : cycle.IsChain (Leads links)
  closes : ∀ x ∈ cycle.getLast?, ∀ y ∈ cycle.head?, Leads links x y

theorem reaches_of_head {R : String → String → Prop} {l : List String} (h : l.IsChain R)
    (hx : x ∈ l.head?) (hy : y ∈ l) : Relation.ReflTransGen R x y := by
  induction l generalizing x with
  | nil => simp at hy
  | cons z l ih =>
    obtain rfl : z = x := by simpa using hx
    rcases List.mem_cons.1 hy with rfl | hy
    · exact Relation.ReflTransGen.refl
    · cases l with
      | nil => simp at hy
      | cons w l =>
        rw [List.isChain_cons_cons] at h
        exact Relation.ReflTransGen.head h.1 (ih h.2 (by simp) hy)

theorem reaches_last {R : String → String → Prop} {l : List String} (h : l.IsChain R)
    (hx : x ∈ l) (hy : y ∈ l.getLast?) : Relation.ReflTransGen R x y := by
  -- read backwards the last member comes first
  have hrev : l.reverse.IsChain (flip R) := by
    rw [List.isChain_reverse]
    exact h
  have hreach := reaches_of_head hrev (x := y) (y := x) (by simpa using hy) (by simpa using hx)
  exact Relation.reflTransGen_swap.1 hreach

/-- A cycle leads from each of its ids to each. -/
theorem IsCycle.transGen {cycle : List String} (h : IsCycle links cycle) (hx : x ∈ cycle) (hy : y ∈ cycle) :
    Relation.TransGen (Leads links) x y := by
  have hfirst : cycle.head h.ne_nil ∈ cycle.head? := List.head_mem_head? h.ne_nil
  have hlast : cycle.getLast h.ne_nil ∈ cycle.getLast? := List.getLast_mem_getLast? h.ne_nil
  have hclose : Leads links (cycle.getLast h.ne_nil) (cycle.head h.ne_nil) :=
    h.closes _ hlast _ hfirst
  exact Relation.TransGen.trans_left
    (Relation.TransGen.tail' (reaches_last h.chain hx hlast) hclose)
    (reaches_of_head h.chain hfirst hy)

theorem IsCycle.onCycle {cycle : List String} (h : IsCycle links cycle) (hx : x ∈ cycle) : OnCycle links x :=
  h.transGen hx hx

/-! ## What is reported is a cycle -/

def nodes (stack : Stack) : List String :=
  stack.map Frame.node

structure Path (links : List Connection) (stack : Stack) : Prop where
  nodup : (nodes stack).Nodup
  chain : (nodes stack).IsChain fun x y => Leads links y x
  rest : ∀ f ∈ stack, ∀ y ∈ f.rest, Leads links f.node y

theorem Path.tail {f : Frame} (h : Path links (f :: below)) : Path links below := by
  refine ⟨?_, ?_, ?_⟩
  · exact (List.nodup_cons.1 h.nodup).2
  · exact h.chain.tail
  · intro g hg
    exact h.rest g (List.mem_cons_of_mem f hg)

theorem Path.skip (h : Path links (⟨node, next :: rest⟩ :: below)) :
    Path links (⟨node, rest⟩ :: below) := by
  refine ⟨h.nodup, h.chain, ?_⟩
  intro g hg y hy
  rcases List.mem_cons.1 hg with rfl | hg
  · exact h.rest _ List.mem_cons_self y (List.mem_cons_of_mem next hy)
  · exact h.rest g (List.mem_cons_of_mem _ hg) y hy

theorem Path.push {f : Frame} (h : Path links (f :: below)) (hlead : Leads links f.node next)
    (hnot : next ∉ nodes (f :: below)) : Path links (frame links next :: f :: below) := by
  refine ⟨List.nodup_cons.2 ⟨hnot, h.nodup⟩, List.isChain_cons_cons.2 ⟨hlead, h.chain⟩, ?_⟩
  intro g hg y hy
  rcases List.mem_cons.1 hg with rfl | hg
  · exact mem_successors.1 hy
  · exact h.rest g hg y hy

theorem path_nil (links : List Connection) : Path links [] :=
  ⟨List.nodup_nil, List.isChain_nil, fun _ hf => absurd hf List.not_mem_nil⟩

theorem path_start (links : List Connection) (id : String) : Path links [frame links id] := by
  refine ⟨by simp [nodes], by simp [nodes], ?_⟩
  intro g hg y hy
  obtain rfl : g = frame links id := by simpa using hg
  exact mem_successors.1 hy

/-- A target that is on the stack cuts it in two. -/
theorem exists_split (hmem : next ∈ nodes stack) : ∃ before after, nodes stack = before ++ next :: after ∧
    loopTo next stack = (before ++ [next]).reverse ∧ ((nodes stack).dropWhile (· ≠ next)).tail = after := by
  rcases List.eq_append_cons_of_mem hmem with ⟨before, after, hsplit, hnot⟩
  have hbefore : ∀ z ∈ before, decide (z ≠ next) = true := by
    intro z hz
    exact decide_eq_true fun heq => hnot (heq ▸ hz)
  have htake : (nodes stack).takeWhile (· ≠ next) = before := by
    rw [hsplit, List.takeWhile_append_of_pos hbefore]
    simp
  have hdrop : (nodes stack).dropWhile (· ≠ next) = next :: after := by
    rw [hsplit, List.dropWhile_append_of_pos hbefore]
    simp
  refine ⟨before, after, hsplit, ?_, by rw [hdrop, List.tail_cons]⟩
  rw [nodes] at htake
  rw [loopTo, htake, List.reverse_append, List.reverse_singleton, List.singleton_append]

theorem loopTo_isCycle (h : Path links (⟨node, next :: rest⟩ :: below))
    (hmem : next ∈ nodes (⟨node, next :: rest⟩ :: below)) :
    IsCycle links (loopTo next (⟨node, next :: rest⟩ :: below)) := by
  rcases exists_split hmem with ⟨before, after, hsplit, hloop, -⟩
  have hprefix : before ++ [next] <+: nodes (⟨node, next :: rest⟩ :: below) := ⟨after, by simp [hsplit]⟩
  have hlead : Leads links node next := h.rest _ List.mem_cons_self next List.mem_cons_self
  rw [hloop]
  refine ⟨by simp, ?_, ?_, ?_⟩
  · exact List.nodup_reverse.2 (h.nodup.sublist hprefix.sublist)
  · rw [List.isChain_reverse]
    exact h.chain.prefix hprefix
  -- the walk runs from the last node down, so the cycle closes at the last node
  · intro x hx y hy
    have hy' : y = next := by simpa [eq_comm] using hy
    have hx' : x = node := by
      have hhead : (nodes (⟨node, next :: rest⟩ :: below)).head? = (before ++ [next]).head? := by
        simp [hsplit, List.head?_append]
      rw [List.getLast?_reverse, ← hhead] at hx
      simpa [nodes, eq_comm] using hx
    rw [hx', hy']
    exact hlead

/-! ### Steps of a search -/

theorem search_nil (links : List Connection) (fresh : List String) :
    search links fresh [] = ⟨none, fresh⟩ := by
  rw [search]

theorem search_pop : search links fresh (⟨node, []⟩ :: below) = search links fresh below := by
  rw [search]

theorem search_close (hmem : next ∈ nodes (⟨node, next :: rest⟩ :: below)) :
    search links fresh (⟨node, next :: rest⟩ :: below) =
      ⟨some (loopTo next (⟨node, next :: rest⟩ :: below)), fresh⟩ := by
  rw [nodes] at hmem
  rw [search, if_pos hmem]

theorem search_push (hnot : next ∉ nodes (⟨node, next :: rest⟩ :: below)) (hfresh : next ∈ fresh) :
    search links fresh (⟨node, next :: rest⟩ :: below) =
      search links (fresh.erase next) (frame links next :: ⟨node, rest⟩ :: below) := by
  rw [nodes] at hnot
  rw [search, if_neg hnot, if_pos hfresh]

theorem search_skip (hnot : next ∉ nodes (⟨node, next :: rest⟩ :: below)) (hfresh : next ∉ fresh) :
    search links fresh (⟨node, next :: rest⟩ :: below) =
      search links fresh (⟨node, rest⟩ :: below) := by
  rw [nodes] at hnot
  rw [search, if_neg hnot, if_neg hfresh]

/-! ## Where a search ends -/

/-- The stack on which a search ends. It is empty, or the next target of its last frame stands on it. -/
def halt (links : List Connection) (fresh : List String) (stack : Stack) : Stack :=
  match stack with
  | [] => []
  | ⟨_, []⟩ :: below => halt links fresh below
  | ⟨node, next :: rest⟩ :: below =>
    if next ∈ (stack.map Frame.node) then stack
    else if next ∈ fresh then halt links (fresh.erase next) (frame links next :: ⟨node, rest⟩ :: below)
    else halt links fresh (⟨node, rest⟩ :: below)
termination_by (fresh.length, work stack)
decreasing_by
  · right; simp [work]
  · left
    rw [List.length_erase_of_mem ‹_›]
    have := List.length_pos_of_mem ‹next ∈ fresh›
    omega
  · right; simp [work]

/-- Induction along a search, on its outcome together with the stack on which it ends. -/
theorem search_induction {P : List String → Stack → Outcome → Stack → Prop}
    (nil : ∀ {fresh}, P fresh [] ⟨none, fresh⟩ [])
    (pop : ∀ {fresh node below outcome last},
      P fresh below outcome last → P fresh (⟨node, []⟩ :: below) outcome last)
    (close : ∀ {fresh node next rest below}, next ∈ nodes (⟨node, next :: rest⟩ :: below) →
      P fresh (⟨node, next :: rest⟩ :: below) ⟨some (loopTo next (⟨node, next :: rest⟩ :: below)), fresh⟩
        (⟨node, next :: rest⟩ :: below))
    (push : ∀ {fresh node next rest below outcome last}, next ∉ nodes (⟨node, next :: rest⟩ :: below) → next ∈ fresh →
      P (fresh.erase next) (frame links next :: ⟨node, rest⟩ :: below) outcome last →
        P fresh (⟨node, next :: rest⟩ :: below) outcome last)
    (skip : ∀ {fresh node next rest below outcome last}, next ∉ nodes (⟨node, next :: rest⟩ :: below) → next ∉ fresh →
      P fresh (⟨node, rest⟩ :: below) outcome last → P fresh (⟨node, next :: rest⟩ :: below) outcome last)
    (fresh : List String) (stack : Stack) : P fresh stack (search links fresh stack) (halt links fresh stack) := by
  induction fresh, stack using search.induct links with
  | case1 fresh =>
    rw [search_nil, halt]
    exact nil
  | case2 fresh node below ih =>
    rw [search_pop, halt]
    exact pop ih
  | case3 fresh node next rest below hmem =>
    rw [search_close hmem, halt, if_pos hmem]
    exact close hmem
  | case4 fresh node next rest below hfresh hnot ih =>
    rw [search_push hnot hfresh, halt, if_neg hnot, if_pos hfresh]
    exact push hnot hfresh ih
  | case5 fresh node next rest below hfresh hnot ih =>
    rw [search_skip hnot hfresh, halt, if_neg hnot, if_neg hfresh]
    exact skip hnot hfresh ih

inductive Halted : Stack → Prop
  | empty : Halted []
  | closing {node next : String} {rest : List String} {below : Stack}
      (hmem : next ∈ nodes (⟨node, next :: rest⟩ :: below)) : Halted (⟨node, next :: rest⟩ :: below)

/-- The cycle that the last frame closes with the target that it is looking at. -/
def closed? : Stack → Option (List String)
  | ⟨node, next :: rest⟩ :: below => some (loopTo next (⟨node, next :: rest⟩ :: below))
  | _ => none

/-- The nodes below the cycle: those through which the search has come to it. -/
def approach : Stack → List String
  | ⟨node, next :: rest⟩ :: below => ((nodes (⟨node, next :: rest⟩ :: below)).dropWhile (· ≠ next)).tail
  | _ => []

theorem halted_halt (links : List Connection) (fresh : List String) (stack : Stack) :
    Halted (halt links fresh stack) := by
  refine search_induction (P := fun _ _ _ last => Halted last) ?nil ?pop ?close ?push ?skip fresh stack
  case nil => exact .empty
  case close => exact fun hmem => .closing hmem
  case pop => exact fun h => h
  case push => exact fun _ _ h => h
  case skip => exact fun _ _ h => h

/-- A search reports what is closed on the stack on which it ends. -/
theorem search_cycle? (links : List Connection) (fresh : List String) (stack : Stack) :
    (search links fresh stack).cycle? = closed? (halt links fresh stack) := by
  refine search_induction (P := fun _ _ outcome last => outcome.cycle? = closed? last)
    ?nil ?pop ?close ?push ?skip fresh stack
  case nil => exact rfl
  case close => exact fun _ => rfl
  case pop => exact fun h => h
  case push => exact fun _ _ h => h
  case skip => exact fun _ _ h => h

/-- The search only changes the stack in ways that keep it a path. -/
theorem Path.halt (h : Path links stack) (fresh : List String) : Path links (halt links fresh stack) := by
  revert h
  refine search_induction (P := fun _ stack _ last => Path links stack → Path links last)
    ?nil ?pop ?close ?push ?skip fresh stack
  case nil => exact fun h => h
  case close => exact fun _ h => h
  case pop =>
    intro fresh node below outcome last ih h
    exact ih h.tail
  case push =>
    intro fresh node next rest below outcome last hnot hfresh ih h
    have hlead : Leads links node next := h.rest _ List.mem_cons_self next List.mem_cons_self
    exact ih (h.skip.push hlead hnot)
  case skip =>
    intro fresh node next rest below outcome last hnot hfresh ih h
    exact ih h.skip

/-- Nodes on the stack have been fresh, and are not fresh any more. -/
theorem nodes_halt_subperm (links : List Connection) (fresh : List String) (stack : Stack) :
    (nodes (halt links fresh stack) ++ (search links fresh stack).fresh).Subperm (nodes stack ++ fresh) := by
  refine search_induction
    (P := fun fresh stack outcome last => (nodes last ++ outcome.fresh).Subperm (nodes stack ++ fresh))
    ?nil ?pop ?close ?push ?skip fresh stack
  case nil => exact List.Subperm.refl _
  case close => exact fun _ => List.Subperm.refl _
  case pop =>
    intro fresh node below outcome last ih
    exact ih.trans (List.sublist_cons_self node _).subperm
  case push =>
    intro fresh node next rest below outcome last hnot hfresh ih
    refine ih.trans (List.Perm.subperm ?_)
    calc List.Perm (next :: (node :: nodes below ++ fresh.erase next))
          (node :: nodes below ++ next :: fresh.erase next) := List.perm_middle.symm
      List.Perm _ (node :: nodes below ++ fresh) := (List.perm_cons_erase hfresh).symm.append_left _
  case skip => exact fun _ _ h => h

theorem search_fresh_subset (links : List Connection) (fresh : List String) (stack : Stack) :
    (search links fresh stack).fresh ⊆ fresh := by
  refine search_induction (P := fun fresh _ outcome _ => outcome.fresh ⊆ fresh)
    ?nil ?pop ?close ?push ?skip fresh stack
  case nil => exact fun h => h
  case close => exact fun _ => List.Subset.refl _
  case pop => exact fun h => h
  case push => exact fun _ _ h _ hx => List.mem_of_mem_erase (h hx)
  case skip => exact fun _ _ h => h

namespace Halted

/-- What is on the stack lies on the cycle or below it. -/
theorem perm_nodes (h : Halted stack) : ((closed? stack).toList.flatten ++ approach stack).Perm (nodes stack) := by
  cases h with
  | empty => rfl
  | @closing node next rest below hmem =>
    rcases exists_split hmem with ⟨before, after, hsplit, hloop, hafter⟩
    rw [closed?, approach, hloop, hafter, hsplit, Option.toList_some, List.flatten_singleton]
    have hreverse := List.reverse_perm (before ++ [next])
    simpa using hreverse.append_right after

theorem isCycle (h : Halted stack) (hpath : Path links stack) {cycle : List String}
    (hclosed : closed? stack = some cycle) : IsCycle links cycle := by
  cases h with
  | empty => cases hclosed
  | closing hmem =>
    rw [← Option.some.inj hclosed]
    exact loopTo_isCycle hpath hmem

/-- A search that has come through a node has closed a cycle that can be reached from it. -/
theorem exists_reached (h : Halted stack) (hpath : Path links stack) (hx : x ∈ approach stack) :
    ∃ cycle, closed? stack = some cycle ∧ ∃ y ∈ cycle, Relation.ReflTransGen (Leads links) x y := by
  cases h with
  | empty => exact absurd hx List.not_mem_nil
  | @closing node next rest below hmem =>
    rcases exists_split hmem with ⟨before, after, hsplit, -, hafter⟩
    rw [approach, hafter] at hx
    -- read from the node that closes the cycle down, the stack is a walk against the links
    have hchain : (next :: after).IsChain fun x y => Leads links y x := hpath.chain.suffix ⟨before, hsplit.symm⟩
    have hreach := reaches_of_head hchain (x := next) (by simp) (List.mem_cons_of_mem next hx)
    exact ⟨_, rfl, next, List.mem_cons_self, Relation.reflTransGen_swap.1 hreach⟩

end Halted

/-! ## Every cycle is met -/

/-- Entered, and left again. -/
def Finished (ids fresh : List String) (stack : Stack) (x : String) : Prop :=
  x ∈ ids ∧ x ∉ fresh ∧ x ∉ nodes stack

/-- Every target of a frame's node is still to be looked at, satisfies `F`, or is the node of the
frame above. -/
def Explored (core : List Connection) (F : String → Prop) : Option String → Stack → Prop
  | _, [] => True
  | above, f :: below =>
    (∀ y, Leads core f.node y → y ∈ f.rest ∨ F y ∨ above = some y) ∧
      Explored core F (some f.node) below

theorem Explored.mono {F G : String → Prop} (hFG : ∀ y, F y → G y) {above : Option String}
    (h : Explored core F above stack) : Explored core G above stack := by
  induction stack generalizing above with
  | nil => trivial
  | cons f below ih =>
    refine ⟨?_, ih h.2⟩
    intro y hy
    rcases h.1 y hy with hrest | hF | habove
    · exact Or.inl hrest
    · exact Or.inr (Or.inl (hFG y hF))
    · exact Or.inr (Or.inr habove)

/-- The links of the core keep clear of what earlier searches have left on their stacks, and `ids` are the other
ids. `above` is the target that the last frame is looking at, if it is not in `rest` any more. -/
structure Walk (links core : List Connection) (ids fresh : List String) (above : Option String)
    (stack : Stack) : Prop where
  within : ∀ x y, Leads core x y → Leads links x y
  joins : Joins core ids
  path : Path links stack
  fresh_nodup : fresh.Nodup
  fresh_subset : fresh ⊆ ids
  entered : ∀ x ∈ nodes stack, x ∈ ids ∧ x ∉ fresh
  closed : ∀ x y, Finished ids fresh stack x → Leads core x y → Finished ids fresh stack y
  clear : ∀ x, Finished ids fresh stack x → ¬ OnCycle core x
  explored : Explored core (Finished ids fresh stack) above stack

namespace Walk

theorem finished_of_reaches {above : Option String} (h : Walk links core ids fresh above stack)
    (hx : Finished ids fresh stack x) (hxy : Relation.ReflTransGen (Leads core) x y) :
    Finished ids fresh stack y := by
  induction hxy with
  | refl => exact hx
  | tail _ hlead ih => exact h.closed _ _ ih hlead

/-- Looking at the next target. -/
theorem look (h : Walk links core ids fresh none (⟨node, next :: rest⟩ :: below)) :
    Walk links core ids fresh (some next) (⟨node, rest⟩ :: below) := by
  refine ⟨h.within, h.joins, h.path.skip, h.fresh_nodup, h.fresh_subset, h.entered, h.closed, h.clear, ?_, h.explored.2⟩
  intro y hy
  rcases h.explored.1 y hy with hrest | hF | habove
  · rcases List.mem_cons.1 hrest with rfl | hrest
    · exact Or.inr (Or.inr rfl)
    · exact Or.inl hrest
  · exact Or.inr (Or.inl hF)
  · cases habove

/-- Nothing more is to be done for a target that is finished, or that no link of the core leads to. -/
theorem resolve (h : Walk links core ids fresh (some next) stack)
    (hfin : next ∈ ids → Finished ids fresh stack next) :
    Walk links core ids fresh none stack := by
  refine ⟨h.within, h.joins, h.path, h.fresh_nodup, h.fresh_subset, h.entered, h.closed, h.clear, ?_⟩
  -- only the last frame was looking at something
  cases stack with
  | nil => trivial
  | cons f below =>
    refine ⟨?_, h.explored.2⟩
    intro y hy
    rcases h.explored.1 y hy with hrest | hF | habove
    · exact Or.inl hrest
    · exact Or.inr (Or.inl hF)
    · rw [Option.some.inj habove] at hfin
      exact Or.inr (Or.inl (hfin (h.joins.target_mem hy)))

theorem finished_push {f : Frame} (h : fresh.Nodup) (hf : f.node ∈ fresh) :
    Finished ids (fresh.erase f.node) (f :: stack) x ↔ Finished ids fresh stack x := by
  have hnodes : nodes (f :: stack) = f.node :: nodes stack := rfl
  by_cases hx : x = f.node
  · subst hx
    simp [Finished, hnodes, hf]
  · simp [Finished, hnodes, hx, h.mem_erase_iff]

/-- Entering a target finishes nothing. -/
theorem push (h : Walk links core ids fresh (some next) stack)
    (hpath : Path links (frame links next :: stack)) (hfresh : next ∈ fresh) :
    Walk links core ids (fresh.erase next) none (frame links next :: stack) := by
  have hfin : ∀ {x}, Finished ids (fresh.erase next) (frame links next :: stack) x ↔
      Finished ids fresh stack x :=
    fun {x} => finished_push (f := frame links next) h.fresh_nodup hfresh
  refine ⟨h.within, h.joins, hpath, h.fresh_nodup.erase next, ?_, ?_, ?_, ?_, ?_⟩
  · intro x hx
    exact h.fresh_subset (List.mem_of_mem_erase hx)
  · intro x hx
    rw [h.fresh_nodup.mem_erase_iff]
    rcases List.mem_cons.1 hx with rfl | hx
    · exact ⟨h.fresh_subset hfresh, fun hmem => hmem.1 rfl⟩
    · exact ⟨(h.entered x hx).1, fun hmem => (h.entered x hx).2 hmem.2⟩
  · intro x y hx hlead
    exact hfin.2 (h.closed x y (hfin.1 hx) hlead)
  · intro x hx
    exact h.clear x (hfin.1 hx)
  · refine ⟨?_, h.explored.mono fun y hy => hfin.2 hy⟩
    intro y hy
    exact Or.inl (mem_successors.2 (h.within next y hy))

theorem finished_pop (h : Walk links core ids fresh none (⟨node, []⟩ :: below)) :
    Finished ids fresh below x ↔ Finished ids fresh (⟨node, []⟩ :: below) x ∨ x = node := by
  have hnode := h.entered node (by simp [nodes])
  have hbelow : node ∉ nodes below := (List.nodup_cons.1 h.path.nodup).1
  have hnodes : nodes (⟨node, []⟩ :: below) = node :: nodes below := rfl
  by_cases hx : x = node
  · subst hx
    simp [Finished, hnode, hbelow]
  · simp [Finished, hnodes, hx]

/-- A node that is left has only finished targets, and there is no way back to it from them. -/
theorem pop (h : Walk links core ids fresh none (⟨node, []⟩ :: below)) :
    Walk links core ids fresh none below := by
  have htarget : ∀ y, Leads core node y → Finished ids fresh (⟨node, []⟩ :: below) y := by
    intro y hy
    rcases h.explored.1 y hy with hrest | hF | habove
    · exact absurd hrest List.not_mem_nil
    · exact hF
    · cases habove
  have hmono : ∀ y, Finished ids fresh (⟨node, []⟩ :: below) y → Finished ids fresh below y :=
    fun y hy => h.finished_pop.2 (Or.inl hy)
  have hnode : Finished ids fresh below node := h.finished_pop.2 (Or.inr rfl)
  -- the frame below was looking at `node`, which is finished by leaving it
  suffices hlooking : Walk links core ids fresh (some node) below from hlooking.resolve fun _ => hnode
  refine ⟨h.within, h.joins, h.path.tail, h.fresh_nodup, h.fresh_subset, ?_, ?_, ?_, h.explored.2.mono hmono⟩
  · intro x hx
    exact h.entered x (List.mem_cons_of_mem node hx)
  · intro x y hx hlead
    rcases h.finished_pop.1 hx with hx | rfl
    · exact hmono y (h.closed x y hx hlead)
    · exact hmono y (htarget y hlead)
  · intro x hx hcycle
    rcases h.finished_pop.1 hx with hx | rfl
    · exact h.clear x hx hcycle
    -- a cycle through `node` would lead from a finished target back to `node`, which is on the stack
    · rcases Relation.TransGen.head'_iff.1 hcycle with ⟨y, hlead, hback⟩
      have hself := h.finished_of_reaches (htarget y hlead) hback
      exact hself.2.2 (by simp [nodes])

/-- A search keeps the invariant up to its end: each way on is one of the steps above. -/
theorem halt (h : Walk links core ids fresh none stack) :
    Walk links core ids (search links fresh stack).fresh none (halt links fresh stack) := by
  revert h
  refine search_induction (P := fun fresh stack outcome last =>
    Walk links core ids fresh none stack → Walk links core ids outcome.fresh none last)
    ?nil ?pop ?close ?push ?skip fresh stack
  case nil => exact fun h => h
  case close => exact fun _ h => h
  case pop =>
    intro fresh node below outcome last ih h
    exact ih h.pop
  case push =>
    intro fresh node next rest below outcome last hnot hfresh ih h
    -- the next node is led to by the one on top
    have hlead : Leads links node next := h.path.rest _ List.mem_cons_self next List.mem_cons_self
    exact ih (h.look.push (h.path.skip.push hlead hnot) hfresh)
  case skip =>
    intro fresh node next rest below outcome last hnot hfresh ih h
    exact ih (h.look.resolve fun hids => ⟨hids, hfresh, hnot⟩)

/-- What is on the stack is left behind, with the links to it and from it. -/
theorem abandon (h : Walk links core ids fresh none stack) :
    Walk links (avoiding (nodes stack) core) (ids.filter (· ∉ nodes stack)) fresh none [] := by
  -- what was on the stack is no id any more, so that the finished ids are the same as before
  have hids : ∀ x, x ∈ ids.filter (· ∉ nodes stack) ↔ x ∈ ids ∧ x ∉ nodes stack := by simp
  have hfin : ∀ x, Finished (ids.filter (· ∉ nodes stack)) fresh [] x ↔ Finished ids fresh stack x := by
    intro x
    have hempty : x ∉ nodes [] := List.not_mem_nil
    rw [Finished, Finished, hids]
    tauto
  constructor
  case within =>
    intro x y hlead
    exact h.within x y (avoiding_le x y hlead)
  case joins =>
    intro c hc
    rcases leads_avoiding_iff.1 ⟨c, hc, rfl, rfl⟩ with ⟨hlead, hsource, htarget⟩
    exact ⟨(hids _).2 ⟨h.joins.source_mem hlead, hsource⟩, (hids _).2 ⟨h.joins.target_mem hlead, htarget⟩⟩
  case path => exact path_nil links
  case fresh_nodup => exact h.fresh_nodup
  case fresh_subset =>
    intro x hx
    exact (hids x).2 ⟨h.fresh_subset hx, fun hmem => (h.entered x hmem).2 hx⟩
  case entered =>
    intro x hx
    exact absurd hx List.not_mem_nil
  case closed =>
    intro x y hx hlead
    exact (hfin y).2 (h.closed x y ((hfin x).1 hx) (avoiding_le x y hlead))
  case clear =>
    intro x hx hcycle
    exact h.clear x ((hfin x).1 hx) hcycle.of_avoiding
  case explored => trivial

theorem start (hj : Joins links ids) : Walk links links ids ids.eraseDups none [] := by
  have hnone : ∀ x, ¬ Finished ids ids.eraseDups [] x := by
    rintro x ⟨hx, hnot, -⟩
    exact hnot (List.mem_eraseDups.2 hx)
  refine ⟨fun _ _ hlead => hlead, hj, path_nil links, List.nodup_eraseDups ids, ?_, ?_, ?_, ?_, trivial⟩
  · intro x hx
    exact List.mem_eraseDups.1 hx
  · intro x hx
    exact absurd hx List.not_mem_nil
  · intro x y hx
    exact absurd hx (hnone x)
  · intro x hx
    exact absurd hx (hnone x)

end Walk

/-! ## Searches from all starts -/

/-- The stacks on which the searches end, one for each start that is still fresh. -/
def halts (links : List Connection) : List String → List String → List Stack
  | [], _ => []
  | id :: starts, fresh =>
    if id ∈ fresh then
      halt links (fresh.erase id) [frame links id] ::
        halts links starts (search links (fresh.erase id) [frame links id]).fresh
    else halts links starts fresh

variable {starts : List String}

theorem searchAll_eq (links : List Connection) (starts fresh : List String) :
    searchAll links starts fresh = (halts links starts fresh).flatMap fun s => (closed? s).toList := by
  induction starts generalizing fresh with
  | nil => rfl
  | cons id starts ih =>
    rw [searchAll, halts]
    by_cases hid : id ∈ fresh
    · simp only [if_pos hid, List.flatMap_cons, search_cycle?, ih]
    · rw [if_neg hid, if_neg hid, ih]

theorem of_mem_halts (hmem : stack ∈ halts links starts fresh) : Halted stack ∧ Path links stack := by
  induction starts generalizing fresh with
  | nil => exact absurd hmem List.not_mem_nil
  | cons id starts ih =>
    rw [halts] at hmem
    by_cases hid : id ∈ fresh
    · rw [if_pos hid] at hmem
      rcases List.mem_cons.1 hmem with rfl | hmem
      · exact ⟨halted_halt links _ _, (path_start links id).halt _⟩
      · exact ih hmem
    · rw [if_neg hid] at hmem
      exact ih hmem

theorem isCycle_of_mem_searchAll {cycle : List String} (hmem : cycle ∈ searchAll links starts fresh) :
    IsCycle links cycle := by
  rw [searchAll_eq, List.mem_flatMap] at hmem
  rcases hmem with ⟨s, hs, hclosed⟩
  rcases of_mem_halts hs with ⟨hhalted, hpath⟩
  exact hhalted.isCycle hpath (Option.mem_toList.1 hclosed)

/-- No node is left on two stacks. -/
theorem nodes_halts_subperm (links : List Connection) (starts fresh : List String) :
    ((halts links starts fresh).flatMap nodes).Subperm fresh := by
  induction starts generalizing fresh with
  | nil => exact List.nil_subperm
  | cons id starts ih =>
    rw [halts]
    by_cases hid : id ∈ fresh
    · rw [if_pos hid, List.flatMap_cons]
      have hrest := (List.subperm_append_left (nodes (halt links (fresh.erase id) [frame links id]))).2
        (ih (search links (fresh.erase id) [frame links id]).fresh)
      have hhalt := nodes_halt_subperm links (fresh.erase id) [frame links id]
      exact (hrest.trans hhalt).trans (List.perm_cons_erase hid).symm.subperm
    · rw [if_neg hid]
      exact ih fresh

/-- Searches from all ids that are fresh have a node of every cycle on one of the stacks on which they end. -/
theorem acyclic_avoiding_halts (h : Walk links core ids fresh none []) (hstarts : ∀ x ∈ fresh, x ∈ starts) :
    Acyclic (avoiding ((halts links starts fresh).flatMap nodes) core) := by
  -- every search leaves its stack behind, and the next one starts on the rest
  induction starts generalizing core ids fresh with
  | nil =>
    intro x hcycle
    have hx : x ∈ ids := h.joins.mem_of_onCycle hcycle.of_avoiding
    have hnot : x ∉ fresh := fun hmem => List.not_mem_nil (hstarts x hmem)
    exact h.clear x ⟨hx, hnot, List.not_mem_nil⟩ hcycle.of_avoiding
  | cons id starts ih =>
    rw [halts]
    by_cases hid : id ∈ fresh
    · -- a search from a start is entered as if a frame below were looking at it
      have hlooking : Walk links core ids fresh (some id) [] :=
        ⟨h.within, h.joins, h.path, h.fresh_nodup, h.fresh_subset, h.entered, h.closed, h.clear, trivial⟩
      have hdone := (hlooking.push (path_start links id) hid).halt
      rw [if_pos hid, List.flatMap_cons, avoiding_append]
      refine ih hdone.abandon ?_
      intro x hx
      have hsub := search_fresh_subset links (fresh.erase id) [frame links id] hx
      rw [h.fresh_nodup.mem_erase_iff] at hsub
      exact (List.mem_cons.1 (hstarts x hsub.2)).resolve_left hsub.1
    · rw [if_neg hid]
      refine ih h ?_
      intro x hx
      refine (List.mem_cons.1 (hstarts x hx)).resolve_left ?_
      rintro rfl
      exact hid hx

end Cycle

namespace Topology

open HostTopology.Cycle

variable {t : Topology} {cycle : List String}

/-- The stacks on which the searches of validation end. -/
def halts (t : Topology) : List Stack :=
  Cycle.halts t.links t.ids.eraseDups t.ids.eraseDups

/-- The ids through which the searches have come to the cycles that they report. -/
def approaches (t : Topology) : List String :=
  t.halts.flatMap approach

theorem isCycle_of_mem_cycles (h : cycle ∈ t.cycles) : IsCycle t.links cycle :=
  isCycle_of_mem_searchAll h

theorem cycles_eq (t : Topology) : t.cycles = t.halts.flatMap fun s => (closed? s).toList :=
  searchAll_eq t.links _ _

/-- What is left on the stacks lies on the cycles that are reported and on the ways to them. -/
theorem perm_nodes_halts (t : Topology) :
    (t.cycles.flatten ++ t.approaches).Perm (t.halts.flatMap nodes) := by
  have hcycles : t.cycles.flatten = t.halts.flatMap fun s => (closed? s).toList.flatten := by
    rw [cycles_eq, ← List.flatMap_id, List.flatMap_assoc]
    simp
  have hstack : ∀ s ∈ t.halts, ((closed? s).toList.flatten ++ approach s).Perm (nodes s) :=
    fun s hs => (of_mem_halts hs).1.perm_nodes
  rw [hcycles, approaches]
  exact (List.flatMap_append_perm _ _ _).trans (List.Perm.flatMap (List.Perm.refl _) hstack)

theorem nodup_cycles_append_approaches (t : Topology) : (t.cycles.flatten ++ t.approaches).Nodup := by
  have hsub : (t.cycles.flatten ++ t.approaches).Subperm t.ids.eraseDups :=
    (perm_nodes_halts t).subperm.trans (nodes_halts_subperm _ _ _)
  rcases hsub with ⟨l, hperm, hsublist⟩
  exact hperm.nodup_iff.1 ((List.nodup_eraseDups t.ids).sublist hsublist)

/-- Every cycle meets a cycle that is reported, or the way to one. -/
theorem acyclic_avoiding (t : Topology) :
    Acyclic (avoiding (t.cycles.flatten ++ t.approaches) t.links) := by
  rw [avoiding_congr fun x => (perm_nodes_halts t).mem_iff]
  refine acyclic_avoiding_halts (Walk.start t.links_joins) ?_
  exact fun x hx => hx

/-- A way leads to a cycle that is reported. -/
theorem exists_reached_of_mem_approaches {x : String} (hx : x ∈ t.approaches) :
    ∃ cycle ∈ t.cycles, ∃ y ∈ cycle, Relation.ReflTransGen (Leads t.links) x y := by
  rcases List.mem_flatMap.1 hx with ⟨s, hs, hx⟩
  rcases of_mem_halts hs with ⟨hhalted, hpath⟩
  rcases hhalted.exists_reached hpath hx with ⟨cycle, hclosed, hreach⟩
  refine ⟨cycle, ?_, hreach⟩
  rw [cycles_eq, List.mem_flatMap]
  exact ⟨s, hs, Option.mem_toList.2 hclosed⟩

theorem cycles_eq_nil_iff (t : Topology) : t.cycles = [] ↔ Acyclic t.links := by
  constructor
  · intro hnil
    have happroaches : t.approaches = [] := by
      rw [List.eq_nil_iff_forall_not_mem]
      intro x hx
      rcases exists_reached_of_mem_approaches hx with ⟨cycle, hcycle, -⟩
      rw [hnil] at hcycle
      exact List.not_mem_nil hcycle
    have hac := acyclic_avoiding t
    rwa [hnil, happroaches, List.flatten_nil, List.append_nil, avoiding_nil] at hac
  · intro hac
    rw [List.eq_nil_iff_forall_not_mem]
    intro cycle hcycle
    have hc := isCycle_of_mem_cycles hcycle
    exact hac _ (hc.onCycle (List.head_mem hc.ne_nil))

end Topology
end HostTopology
