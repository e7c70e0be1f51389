import HostTopology.Sequence

/-!
# Cycle — cycles found by walking along the links

`Cycle.search` walks depth first with the stack of the nodes it came through, each with the targets
it has not looked at yet. A target that is on the stack closes a cycle and ends the search. A node
is entered only while it is fresh, and is not fresh afterwards, so the searches from all starts
enter it once.
-/

namespace HostTopology
namespace Cycle

/-- A node on the way, with the targets of its links that are still to be looked at. -/
structure Frame where
  node : String
  rest : List String
deriving DecidableEq, Repr

/-- The last frame comes first. -/
abbrev Stack := List Frame

def frame (links : List Connection) (id : String) : Frame :=
  ⟨id, Sequence.successors links id⟩

/-- The nodes from `id`, which is on the stack, to the last one. -/
def loopTo (id : String) (stack : Stack) : List String :=
  id :: ((stack.map Frame.node).takeWhile (· ≠ id)).reverse

/-- Frames and targets that are still to be dealt with. -/
def work : Stack → Nat
  | [] => 0
  | f :: below => f.rest.length + 1 + work below

structure Outcome where
  cycle? : Option (List String)
  fresh : List String
deriving DecidableEq, Repr

/-- The first cycle that is closed on the way, and the nodes that are still fresh. -/
def search (links : List Connection) (fresh : List String) (stack : Stack) : Outcome :=
  match stack with
  | [] => ⟨none, fresh⟩
  | ⟨_, []⟩ :: below => search links fresh below
  | ⟨node, next :: rest⟩ :: below =>
    if next ∈ (stack.map Frame.node) then ⟨some (loopTo next stack), fresh⟩
    else if next ∈ fresh then search links (fresh.erase next) (frame links next :: ⟨node, rest⟩ :: below)
    else search links fresh (⟨node, rest⟩ :: below)
termination_by (fresh.length, work stack)
decreasing_by
  · right; simp [work]
  · left
    rw [List.length_erase_of_mem ‹_›]
    have := List.length_pos_of_mem ‹next ∈ fresh›
    omega
  · right; simp [work]

/-- The cycles found from each of the starts that is still fresh. -/
def searchAll (links : List Connection) : List String → List String → List (List String)
  | [], _ => []
  | id :: starts, fresh =>
    if id ∈ fresh then
      let outcome := search links (fresh.erase id) [frame links id]
      outcome.cycle?.toList ++ searchAll links starts outcome.fresh
    else searchAll links starts fresh

end Cycle

/-- Cycles of links, each as the ids along it. -/
def Topology.cycles (t : Topology) : List (List String) :=
  Cycle.searchAll t.links t.ids.eraseDups t.ids.eraseDups

end HostTopology
