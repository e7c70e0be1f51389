import HostTopology.Proofs.Cycle
import HostTopology.Proofs.Queueing

/-!
# Visiting — the searches for cycles, turn by turn

`Cycle.searchAll` tells what the searches from all starts find. This file takes them apart into turns and keeps a
record of the ids that are entered and of the links that are looked at, over all starts.

* `turn` — one turn: the next start is taken up or passed over, a node is left, or a link is looked at;
* `Turn` — what a turn can do;
* `pending` — what the searches have found and will find, which no turn changes;
* `Tracked` — every id has been entered or is fresh; every link has been looked at, waits on the stack or leaves a
  fresh id;
* `walks_end` — the queue and the searches end on every topology, and how often they meet ids and links.
-/

namespace HostTopology
namespace Cycle

variable {links : List Connection} {ids : List String}

/-! ## Turns -/

/-- A node on the way, with the links that are still to be looked at. -/
structure Visit where
  node : String
  rest : List Connection
deriving DecidableEq, Repr

def Visit.frame (v : Visit) : Frame :=
  ⟨v.node, v.rest.map Connection.target⟩

@[simp] theorem frame_nil (node : String) : Visit.frame ⟨node, []⟩ = ⟨node, []⟩ := rfl

@[simp] theorem frame_cons (node : String) (c : Connection) (rest : List Connection) :
    Visit.frame ⟨node, c :: rest⟩ = ⟨node, c.target :: rest.map Connection.target⟩ := rfl

def outgoing (links : List Connection) (id : String) : List Connection :=
  links.filter fun c => c.source = id

theorem frame_outgoing (links : List Connection) (id : String) :
    Visit.frame ⟨id, outgoing links id⟩ = frame links id := rfl

/-- The searches on their way: the starts to come, the ids that are fresh and the stack, with the cycles that have
been found, the ids that have been entered and the links that have been looked at. -/
structure Searches where
  starts : List String
  fresh : List String
  stack : List Visit
  cycles : List (List String)
  entered : List String
  examined : List Connection
deriving DecidableEq, Repr

def Searches.enter (links : List Connection) (id : String) (s : Searches) : Searches :=
  { s with
    fresh := s.fresh.erase id
    stack := ⟨id, outgoing links id⟩ :: s.stack
    entered := s.entered ++ [id] }

/-- A closed cycle gives up the stack, with all that waits there. -/
def turn (links : List Connection) (s : Searches) : Option Searches :=
  match s.stack with
  | [] =>
    match s.starts with
    | [] => none
    | id :: starts =>
      let next := { s with starts }
      some (if id ∈ s.fresh then next.enter links id else next)
  | ⟨_, []⟩ :: below => some { s with stack := below }
  | ⟨node, c :: rest⟩ :: below =>
    let next := { s with stack := ⟨node, rest⟩ :: below, examined := s.examined ++ [c] }
    some (
      if c.target ∈ node :: below.map Visit.node then
        let cycle := loopTo c.target (s.stack.map Visit.frame)
        { next with stack := [], cycles := s.cycles ++ [cycle] }
      else if c.target ∈ s.fresh then next.enter links c.target
      else next)

def Searches.start (ids : List String) : Searches :=
  ⟨ids, ids, [], [], [], []⟩

/-- What a turn can do. -/
inductive Turn (links : List Connection) : Searches → Searches → Prop
  | pass {id starts fresh cycles entered examined} (hfresh : id ∉ fresh) :
      Turn links ⟨id :: starts, fresh, [], cycles, entered, examined⟩ ⟨starts, fresh, [], cycles, entered, examined⟩
  | start {id starts fresh cycles entered examined} (hfresh : id ∈ fresh) :
      Turn links ⟨id :: starts, fresh, [], cycles, entered, examined⟩
        ⟨starts, fresh.erase id, [⟨id, outgoing links id⟩], cycles, entered ++ [id], examined⟩
  | pop {node starts fresh below cycles entered examined} :
      Turn links ⟨starts, fresh, ⟨node, []⟩ :: below, cycles, entered, examined⟩
        ⟨starts, fresh, below, cycles, entered, examined⟩
  | close {node c rest starts fresh below cycles entered examined} (hmem : c.target ∈ node :: below.map Visit.node) :
      Turn links ⟨starts, fresh, ⟨node, c :: rest⟩ :: below, cycles, entered, examined⟩
        ⟨starts, fresh, [], cycles ++ [loopTo c.target ((⟨node, c :: rest⟩ :: below).map Visit.frame)], entered,
          examined ++ [c]⟩
  | push {node c rest starts fresh below cycles entered examined} (hnot : c.target ∉ node :: below.map Visit.node)
      (hfresh : c.target ∈ fresh) :
      Turn links ⟨starts, fresh, ⟨node, c :: rest⟩ :: below, cycles, entered, examined⟩
        ⟨starts, fresh.erase c.target, ⟨c.target, outgoing links c.target⟩ :: ⟨node, rest⟩ :: below, cycles,
          entered ++ [c.target], examined ++ [c]⟩
  | skip {node c rest starts fresh below cycles entered examined} (hnot : c.target ∉ node :: below.map Visit.node)
      (hfresh : c.target ∉ fresh) :
      Turn links ⟨starts, fresh, ⟨node, c :: rest⟩ :: below, cycles, entered, examined⟩
        ⟨starts, fresh, ⟨node, rest⟩ :: below, cycles, entered, examined ++ [c]⟩

variable {s s' last : Searches} {n : Nat}

theorem Turn.of_eq_some (h : turn links s = some s') : Turn links s s' := by
  obtain ⟨starts, fresh, stack, cycles, entered, examined⟩ := s
  -- a turn is settled by the top of the stack
  rcases stack with - | ⟨⟨node, - | ⟨c, rest⟩⟩, below⟩
  · cases starts with
    | nil => cases h
    | cons id starts =>
      obtain rfl := Option.some.inj h
      by_cases hfresh : id ∈ fresh
      · rw [if_pos hfresh]
        exact .start hfresh
      · rw [if_neg hfresh]
        exact .pass hfresh
  · obtain rfl := Option.some.inj h
    exact .pop
  · obtain rfl := Option.some.inj h
    by_cases hmem : c.target ∈ node :: below.map Visit.node
    · rw [if_pos hmem]
      exact .close hmem
    · rw [if_neg hmem]
      by_cases hfresh : c.target ∈ fresh
      · rw [if_pos hfresh]
        exact .push hmem hfresh
      · rw [if_neg hfresh]
        exact .skip hmem hfresh

theorem turn_eq_none_iff : turn links s = none ↔ s.stack = [] ∧ s.starts = [] := by
  obtain ⟨starts, fresh, stack, cycles, entered, examined⟩ := s
  rcases stack with - | ⟨⟨node, - | ⟨c, rest⟩⟩, below⟩
  · cases starts <;> simp [turn]
  · simp [turn]
  · simp [turn]

/-! ## What is found -/

/-- The cycles that have been found, the one that the stack leads to and those from the starts to come. -/
def pending (links : List Connection) (s : Searches) : List (List String) :=
  let outcome := search links s.fresh (s.stack.map Visit.frame)
  s.cycles ++ (outcome.cycle?.toList ++ searchAll links s.starts outcome.fresh)

theorem mem_nodes_iff {x node : String} {rest : List String} {below : List Visit} :
    x ∈ nodes (⟨node, rest⟩ :: below.map Visit.frame) ↔ x ∈ node :: below.map Visit.node := by
  have hnodes : nodes (below.map Visit.frame) = below.map Visit.node := by
    rw [nodes, List.map_map]
    rfl
  rw [← hnodes]
  rfl

/-- A turn is a step of a search, or takes up the next start. -/
theorem Turn.pending_eq (h : Turn links s s') : pending links s' = pending links s := by
  cases h with
  | pass hfresh => simp [pending, search_nil, searchAll, hfresh]
  | start hfresh => simp [pending, search_nil, searchAll, hfresh, frame_outgoing]
  | pop => simp only [pending, List.map_cons, frame_nil, search_pop]
  | close hmem =>
    simp only [pending, List.map_cons, frame_cons, search_close (mem_nodes_iff.2 hmem)]
    simp [search_nil]
  | push hnot hfresh =>
    simp only [pending, List.map_cons, frame_cons, search_push (mt mem_nodes_iff.1 hnot) hfresh, frame_outgoing]
    rfl
  | skip hnot hfresh =>
    simp only [pending, List.map_cons, frame_cons, search_skip (mt mem_nodes_iff.1 hnot) hfresh]
    rfl

theorem cycles_of_endsAfter (h : Loop.EndsAfter (turn links) n s last) : last.cycles = pending links s := by
  induction n generalizing s with
  | zero =>
    obtain ⟨rfl, hend⟩ := Loop.endsAfter_zero_iff.1 h
    obtain ⟨hstack, hstarts⟩ := turn_eq_none_iff.1 hend
    simp [pending, hstack, hstarts, search_nil, searchAll]
  | succ n ih =>
    obtain ⟨s', hturn, h⟩ := Loop.endsAfter_succ_iff.1 h
    rw [ih h, (Turn.of_eq_some hturn).pending_eq]

/-! ## What is entered and looked at -/

/-- The links that wait on the stack. -/
def waiting (stack : List Visit) : List Connection :=
  stack.flatMap Visit.rest

@[simp] theorem waiting_nil : waiting [] = [] := rfl

@[simp] theorem waiting_cons (node : String) (rest : List Connection) (below : List Visit) :
    waiting (⟨node, rest⟩ :: below) = rest ++ waiting below := rfl

/-- The links that leave the ids. -/
def leaving (links : List Connection) (ids : List String) : List Connection :=
  ids.flatMap (outgoing links)

/-- Links that leave different ids are different links. -/
theorem leaving_perm (hn : ids.Nodup) : (leaving links ids).Perm (links.filter fun c => c.source ∈ ids) := by
  induction ids with
  | nil => simp [leaving]
  | cons id ids ih =>
    rw [List.nodup_cons] at hn
    -- the links of the first id and those of the others are apart, since it is none of the others
    let found := links.filter fun c => c.source ∈ id :: ids
    have hfirst : found.filter (fun c => c.source = id) = outgoing links id := by
      rw [List.filter_filter, outgoing]
      refine List.filter_congr fun c _ => ?_
      by_cases hc : c.source = id <;> simp [hc]
    have hothers : found.filter (fun c => !decide (c.source = id)) = links.filter fun c => c.source ∈ ids := by
      rw [List.filter_filter]
      refine List.filter_congr fun c _ => ?_
      by_cases hc : c.source = id
      · simp [hc, hn.1]
      · simp [hc]
    have hparts : (outgoing links id ++ links.filter fun c => c.source ∈ ids).Perm found := by
      rw [← hfirst, ← hothers]
      exact List.filter_append_perm _ found
    exact ((ih hn.2).append_left _).trans hparts

/-- The links of an id that is entered wait on the stack. -/
theorem perm_enter (links : List Connection) {id : String} {fresh : List String} (hfresh : id ∈ fresh)
    (stack : List Visit) : (waiting (⟨id, outgoing links id⟩ :: stack) ++ leaving links (fresh.erase id)).Perm
      (waiting stack ++ leaving links fresh) := by
  have herase : (leaving links fresh).Perm (outgoing links id ++ leaving links (fresh.erase id)) :=
    (List.perm_cons_erase hfresh).flatMap_right (outgoing links)
  calc List.Perm (outgoing links id ++ waiting stack ++ leaving links (fresh.erase id))
        (waiting stack ++ outgoing links id ++ leaving links (fresh.erase id)) :=
          List.perm_append_comm.append_right _
    List.Perm _ (waiting stack ++ leaving links fresh) := by
      rw [List.append_assoc]
      exact herase.symm.append_left _

/-- Starts to come, ids to enter and nodes to leave, and links to look at. -/
def remaining (links : List Connection) (s : Searches) : Nat :=
  s.starts.length + s.fresh.length + s.stack.length + (waiting s.stack ++ leaving links s.fresh).length

/-- A node that is entered costs no more than the id and the links that it takes away from what is fresh. -/
theorem Turn.remaining_lt (h : Turn links s s') : remaining links s' < remaining links s := by
  cases h with
  | pass hfresh => simp [remaining]
  | @start id starts fresh cycles entered examined hfresh =>
    have hfewer := List.length_erase_add_one hfresh
    have hsame := (perm_enter links hfresh []).length_eq
    simp only [remaining, List.length_cons, List.length_nil, hsame]
    omega
  | pop => simp [remaining]
  | close hmem =>
    simp only [remaining, List.length_cons, List.length_nil, List.length_append, waiting_cons, waiting_nil]
    omega
  | @push node c rest starts fresh below cycles entered examined hnot hfresh =>
    have hfewer := List.length_erase_add_one hfresh
    have hsame := (perm_enter links hfresh (⟨node, rest⟩ :: below)).length_eq
    -- one id less is fresh and one node more is on the stack, so that the link looked at decides
    simp only [remaining, List.length_cons, hsame]
    simp only [waiting_cons, List.length_append, List.length_cons]
    omega
  | skip hnot hfresh => simp [remaining]

/-- Every id has been entered or is fresh, and the fresh ones are starts to come. Every link has been looked at, waits,
or leaves a fresh id. -/
structure Tracked (links : List Connection) (ids : List String) (s : Searches) : Prop where
  entered : (s.entered ++ s.fresh).Perm ids
  coming : s.fresh ⊆ s.starts
  examined : (s.examined ++ (waiting s.stack ++ leaving links s.fresh)).Subperm links

theorem perm_entered {id : String} {fresh entered : List String} (hfresh : id ∈ fresh) :
    (entered ++ [id] ++ fresh.erase id).Perm (entered ++ fresh) := by
  rw [List.append_assoc]
  exact (List.perm_cons_erase hfresh).symm.append_left _

theorem Tracked.turn (h : Tracked links ids s) (hn : ids.Nodup) (hturn : Turn links s s') : Tracked links ids s' := by
  obtain ⟨hentered, hcoming, hexamined⟩ := h
  have hnodup : s.fresh.Nodup := (hentered.nodup_iff.2 hn).of_append_right
  cases hturn with
  | pass hfresh =>
    refine ⟨hentered, fun x hx => ?_, hexamined⟩
    exact (List.mem_cons.1 (hcoming hx)).resolve_left fun heq => hfresh (heq ▸ hx)
  | start hfresh =>
    refine ⟨(perm_entered hfresh).trans hentered, fun x hx => ?_, ?_⟩
    · -- the start itself is not fresh any more
      obtain ⟨hne, hx⟩ := hnodup.mem_erase_iff.1 hx
      exact (List.mem_cons.1 (hcoming hx)).resolve_left hne
    · exact ((perm_enter links hfresh []).append_left _).subperm.trans hexamined
  | pop => exact ⟨hentered, hcoming, hexamined⟩
  | close hmem =>
    -- what waited on the stack is never looked at
    refine ⟨hentered, hcoming, List.Subperm.trans (List.Sublist.subperm ?_) hexamined⟩
    simp
  | @push node c rest starts fresh below cycles entered examined hnot hfresh =>
    refine ⟨(perm_entered hfresh).trans hentered, fun x hx => hcoming (List.mem_of_mem_erase hx), ?_⟩
    refine (((perm_enter links hfresh (⟨node, rest⟩ :: below)).append_left _).subperm).trans ?_
    simpa using hexamined
  | skip hnot hfresh =>
    refine ⟨hentered, hcoming, ?_⟩
    simpa using hexamined

theorem Tracked.start (links : List Connection) (hn : ids.Nodup) : Tracked links ids (.start ids) where
  entered := List.Perm.refl ids
  coming := List.Subset.refl ids
  examined := (leaving_perm hn).subperm.trans List.filter_sublist.subperm

theorem remaining_start_le (links : List Connection) (hn : ids.Nodup) :
    remaining links (.start ids) ≤ 2 * ids.length + links.length := by
  have hleaving := (Tracked.start links hn).examined.length_le
  simp only [remaining, Searches.start, waiting_nil, List.nil_append, List.length_nil] at hleaving ⊢
  omega

end Cycle

/-! ## Both walks -/

/-- The searches of a topology, which start from all its ids. -/
def Topology.searches (t : Topology) : Cycle.Searches :=
  .start t.ids.eraseDups

namespace Topology

open HostTopology.Cycle

theorem endsAfter_turn (t : Topology) : ∃ n last, Loop.EndsAfter (turn t.links) n t.searches last ∧
    n ≤ 2 * t.ids.eraseDups.length + t.links.length ∧ last.cycles = t.cycles ∧
    last.entered.Perm t.ids.eraseDups ∧ last.examined.Subperm t.links := by
  have hn := List.nodup_eraseDups t.ids
  have hturn : ∀ s s', Tracked t.links t.ids.eraseDups s → turn t.links s = some s' →
      Tracked t.links t.ids.eraseDups s' ∧ remaining t.links s' < remaining t.links s := by
    intro s s' h hsome
    have hturn := Turn.of_eq_some hsome
    exact ⟨h.turn hn hturn, hturn.remaining_lt⟩
  obtain ⟨n, last, hend, hle, hlast⟩ := Loop.exists_endsAfter _ hturn (Tracked.start t.links hn)
  obtain ⟨hstack, hstarts⟩ := turn_eq_none_iff.1 hend.2
  refine ⟨n, last, hend, hle.trans (remaining_start_le t.links hn), ?_, ?_, ?_⟩
  · rw [cycles_of_endsAfter hend]
    simp [pending, Searches.start, search_nil, cycles]
  · -- what is fresh is a start to come, and none is
    have hfresh : last.fresh = [] := List.subset_nil.1 (hstarts ▸ hlast.coming)
    simpa [hfresh] using hlast.entered
  · exact (List.sublist_append_left _ _).subperm.trans hlast.examined

/-- `b` closes a cycle, and is left with its link to `c`. Nobody looks at this link any more. -/
example :
    let links := [Connection.make "" "a" "b" .reference, .make "" "b" "a" .reference, .make "" "b" "c" .reference]
    (Loop.turns (turn links) 6 (.start ["a", "b", "c"])).map (fun s => (s.cycles, s.entered, s.examined)) =
      some ([["a", "b"]], ["a", "b", "c"], links.take 2) := by
  decide

/-- The queue is empty after as many turns as ids are in the order, which takes each as often as the topology has it
at most. The searches for cycles end, enter every id once and look at no link twice. -/
theorem walks_end (t : Topology) :
    (∃ last, Loop.EndsAfter (Sequence.dequeue t.links) t.order.length t.queue last ∧ last.order = t.order ∧
      t.order.Subperm t.ids ∧ t.order.length ≤ t.instances.length) ∧
    ∃ n last, Loop.EndsAfter (turn t.links) n t.searches last ∧
      n ≤ 2 * t.ids.eraseDups.length + t.links.length ∧ last.cycles = t.cycles ∧ last.entered.Nodup ∧
      last.entered.Perm t.ids.eraseDups ∧ last.examined.Subperm t.links := by
  obtain ⟨emptied, hemptied, horder, hsub⟩ := t.endsAfter_dequeue
  obtain ⟨n, last, hend, hle, hcycles, hentered, hexamined⟩ := t.endsAfter_turn
  have hlength : t.ids.length = t.instances.length := List.length_map _
  have hnodup : last.entered.Nodup := hentered.nodup_iff.2 (List.nodup_eraseDups t.ids)
  exact ⟨⟨emptied, hemptied, horder, hsub, hlength ▸ hsub.length_le⟩, n, last, hend, hle, hcycles, hnodup, hentered,
    hexamined⟩

end Topology
end HostTopology
