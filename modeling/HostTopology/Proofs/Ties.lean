import HostTopology.Proofs.Sequencing
import Mathlib.Data.List.Dedup

/-!
# Ties — what decides between instances that are free at the same time

The queue starts with the instances that have no source, in topology order. When an instance leaves it, all that it
was the last source of are set free at once, and these queue in the order of the last link from it to each. So the
order of the connections decides between them, and not the order of the instances.

* `LastSource` — a source of an id that stands behind its other sources in an order;
* `freedBy` — what is set free by an id, in the order of the last links to each; `freed_eq_freedBy` is a step of
  the queue, and `run_eq_append` the whole run: what is in the queue, and then what each id sets free;
* `run_congr` — runs over the same links in another order are equal as long as what is set free is in the same order;
* `ordered_permute_iff` — which other orders of the connections leave the order of the instances as it is: for
  some permutation another one comes out exactly if some instance sets two others free.
-/

namespace List

variable {α β : Type} {f g : α → List β}

/-- Pieces of the same lengths can be told apart in what is put together from them. -/
theorem eq_of_flatMap_eq {l : List α} (h : l.flatMap f = l.flatMap g) (hlength : ∀ a ∈ l, (f a).length = (g a).length) :
    ∀ a ∈ l, f a = g a := by
  induction l with
  | nil => exact fun a ha => absurd ha not_mem_nil
  | cons a l ih =>
    rw [flatMap_cons, flatMap_cons] at h
    obtain ⟨hhead, htail⟩ := append_inj h (hlength a mem_cons_self)
    intro b hb
    rcases mem_cons.1 hb with rfl | hb
    · exact hhead
    · exact ih htail (fun b hb => hlength b (mem_cons_of_mem a hb)) b hb

end List

namespace HostTopology
namespace Sequence

variable {links links' : List Connection} {ids done queue order after : List String} {a b id x y : String} {d d' : Degrees}
  {n : Nat}

/-! ## The last source -/

/-- All sources of `x` stand at `a`, which is one of them, or before it. -/
def LastSource (links : List Connection) (order : List String) (a x : String) : Prop :=
  Leads links a x ∧ ∀ c ∈ links, c.target = x → order.idxOf c.source ≤ order.idxOf a

instance (links : List Connection) (order : List String) (a x : String) : Decidable (LastSource links order a x) :=
  inferInstanceAs (Decidable (_ ∧ _))

theorem lastSource_iff :
    LastSource links order a x ↔ Leads links a x ∧ ∀ b, Leads links b x → order.idxOf b ≤ order.idxOf a := by
  refine and_congr_right fun _ => ⟨?_, fun h c hc hx => h c.source ⟨c, hc, rfl, hx⟩⟩
  rintro h b ⟨c, hc, rfl, hx⟩
  exact h c hc hx

theorem lastSource_congr (h : ∀ a b, Leads links a b ↔ Leads links' a b) :
    LastSource links order a x ↔ LastSource links' order a x := by
  simp only [lastSource_iff, h]

/-- What is set free when an id leaves the queue: the last link to each decides where it stands. -/
def freedBy (links : List Connection) (order : List String) (a : String) : List String :=
  (successors links a).dedup.filter fun x => LastSource links order a x

theorem mem_freedBy : x ∈ freedBy links order a ↔ LastSource links order a x := by
  rw [freedBy, List.mem_filter, List.mem_dedup, decide_eq_true_eq, mem_successors]
  exact and_iff_right_of_imp And.left

/-! ## One step -/

/-- An id is set free by the last of the links that are taken away from it. -/
theorem release_eq_filter {succs : List String} (h : Covers d succs) :
    (release succs d).1 = succs.dedup.filter fun y => degree y d = succs.count y := by
  induction succs generalizing d with
  | nil => rfl
  | cons x succs ih =>
    obtain ⟨hkey, hle⟩ := h x List.mem_cons_self
    have hstep : degree x (lower x d) = degree x d - 1 := by simp [degree_lower hkey]
    -- for the other ids one link less counts on both sides
    have hrest : succs.dedup.filter (fun y => degree y (lower x d) = succs.count y) =
        succs.dedup.filter fun y => degree y d = (x :: succs).count y := by
      refine List.filter_congr fun y hy => decide_eq_decide.2 ?_
      have hkey' := (h y (List.mem_cons_of_mem x (List.mem_dedup.1 hy))).1
      rw [degree_lower hkey', List.count_cons]
      by_cases hxy : x = y
      · simp [hxy]
        omega
      · simp [hxy]
    rw [List.count_cons_self] at hle
    push_cast at hle
    rw [release_cons, ih h.tail, hrest]
    by_cases hx : x ∈ succs
    · have hpos := List.count_pos_iff.2 hx
      have hheld : degree x (lower x d) ≠ 0 := by omega
      rw [if_neg hheld, List.dedup_cons_of_mem hx]
    · have hcount : (x :: succs).count x = 1 := by rw [List.count_cons_self, List.count_eq_zero.2 hx]
      have hlast : degree x (lower x d) = 0 ↔ degree x d = (x :: succs).count x := by
        rw [hcount, hstep]
        omega
      rw [List.dedup_cons_of_notMem hx]
      by_cases hfree : degree x d = (x :: succs).count x
      · rw [if_pos (hlast.2 hfree), List.filter_cons, if_pos (decide_eq_true hfree)]
      · rw [if_neg (mt hlast.1 hfree), List.filter_cons, if_neg (by simpa using hfree)]

theorem idxOf_le_iff (hn : (done ++ id :: after).Nodup) :
    (done ++ id :: after).idxOf b ≤ (done ++ id :: after).idxOf id ↔ b ∈ done ++ [id] := by
  rw [hn.idxOf_middle, List.mem_append, List.mem_singleton]
  by_cases hb : b ∈ done
  · rw [idxOf_append hb]
    exact iff_of_true (List.idxOf_lt_length_iff.2 hb).le (Or.inl hb)
  · rw [List.idxOf_append_of_notMem hb, or_iff_right hb]
    by_cases hid : b = id
    · simp [hid]
    · simp [List.idxOf_cons_ne after (Ne.symm hid), hid]

namespace Queued

/-- What leaves the queue sets free what it is the last source of, whatever comes after it. -/
theorem freed_eq_freedBy (h : Queued links ids done (id :: queue) d) (hn : order.Nodup)
    (horder : done ++ id :: after = order) : (release (successors links id) d).1 = freedBy links order id := by
  subst horder
  rw [release_eq_filter h.covers, freedBy]
  refine List.filter_congr fun y hy => decide_eq_decide.2 ?_
  have hmem := h.mem_freed (y := y)
  rw [release_eq_filter h.covers, List.mem_filter, and_iff_right hy, decide_eq_true_eq] at hmem
  simp only [hmem, lastSource_iff, idxOf_le_iff hn]

/-! ## Whole runs -/

/-- After what is in the queue comes what each id sets free, one after the other. -/
theorem run_eq_append (n : Nat) (h : Queued links ids done queue d) (hfuel : ids.length ≤ n + done.length)
    (hn : order.Nodup) (horder : done ++ Sequence.run links n queue d = order) :
    Sequence.run links n queue d = queue ++ (Sequence.run links n queue d).flatMap (freedBy links order) := by
  induction n generalizing done queue d with
  | zero =>
    obtain rfl : queue = [] := h.queue_eq_nil (by omega)
    rfl
  | succ n ih =>
    cases queue with
    | nil => rfl
    | cons id queue =>
      -- what the head sets free goes to the end of the queue
      let freed := (release (successors links id) d).1
      let rest := Sequence.run links n (queue ++ freed) (release (successors links id) d).2
      have hfreed : freed = freedBy links order id := h.freed_eq_freedBy hn horder
      have hrest : rest = queue ++ freed ++ rest.flatMap (freedBy links order) :=
        ih h.step (by simp; omega) ((List.append_assoc done [id] rest).trans horder)
      change id :: rest = _
      calc id :: rest
          = id :: (queue ++ freed ++ rest.flatMap (freedBy links order)) := congrArg (id :: ·) hrest
        _ = id :: queue ++ (freed ++ rest.flatMap (freedBy links order)) := by simp
        _ = id :: queue ++ (id :: rest).flatMap (freedBy links order) := by rw [List.flatMap_cons, ← hfreed]

/-- A run over the same links in another order goes the same way as long as what is set free is in the same order. -/
theorem run_congr (n : Nat) (h : Queued links ids done queue d) (h' : Queued links' ids done queue d')
    (hn : order.Nodup) (horder : done ++ Sequence.run links n queue d = order)
    (hsame : ∀ a ∈ Sequence.run links n queue d, freedBy links' order a = freedBy links order a) :
    Sequence.run links' n queue d' = Sequence.run links n queue d := by
  induction n generalizing done queue d d' with
  | zero => rfl
  | succ n ih =>
    cases queue with
    | nil => rfl
    | cons id queue =>
      -- both queues have the same head, and it sets the same free
      let freed := (release (successors links id) d).1
      let rest := Sequence.run links n (queue ++ freed) (release (successors links id) d).2
      have hfreed : (release (successors links' id) d').1 = freed :=
        calc (release (successors links' id) d').1
            = freedBy links' order id := h'.freed_eq_freedBy hn horder
          _ = freedBy links order id := hsame id List.mem_cons_self
          _ = freed := (h.freed_eq_freedBy hn horder).symm
      have hstep' := h'.step
      rw [hfreed] at hstep'
      have hrest := ih h.step hstep' ((List.append_assoc done [id] rest).trans horder) fun a ha =>
        hsame a (List.mem_cons_of_mem id ha)
      calc Sequence.run links' (n + 1) (id :: queue) d'
          = id :: Sequence.run links' n (queue ++ (release (successors links' id) d').1)
              (release (successors links' id) d').2 := rfl
        _ = id :: rest := by rw [hfreed, hrest]

end Queued

/-! ## Links in another order -/

section Permuted

variable (h : links'.Perm links)
include h

theorem leads_perm : Leads links' a b ↔ Leads links a b :=
  exists_congr fun _ => and_congr_left fun _ => h.mem_iff

theorem startDegrees_perm (ids : List String) : startDegrees ids links' = startDegrees ids links := by
  simp only [startDegrees, h.countP_eq]

theorem freedBy_perm (order : List String) (a : String) : (freedBy links' order a).Perm (freedBy links order a) := by
  have hlast : ∀ x, LastSource links' order a x ↔ LastSource links order a x :=
    fun x => lastSource_congr fun _ _ => leads_perm h
  have hsuccs : (successors links' a).Perm (successors links a) := (h.filter _).map _
  simp only [freedBy, hlast]
  exact hsuccs.dedup.filter _

end Permuted

/-- If a link to `y` is the last one from `a`, then `y` is the last that `a` sets free. -/
theorem suffix_freedBy {succs : List String} (hlast : LastSource links order a y)
    (hsuccs : successors links a = succs ++ [y]) : [y] <:+ freedBy links order a := by
  have hdedup : [y] <:+ (successors links a).dedup := by
    rw [hsuccs, List.dedup_append]
    exact List.suffix_union_right _ _
  have hfilter := hdedup.filter fun x => LastSource links order a x
  rwa [List.filter_cons, if_pos (decide_eq_true hlast), List.filter_nil] at hfilter

end Sequence

/-! ## Connections in another order -/

namespace Topology

open Sequence

variable {t u : Topology} {a : String}

/-- The same instances, and the same connections in whatever order. -/
structure Redraws (t u : Topology) : Prop where
  instances : u.instances = t.instances
  connections : u.connections.Perm t.connections

namespace Redraws

variable (h : t.Redraws u)
include h

theorem ids_eq : u.ids = t.ids := by
  rw [ids, ids, h.instances]

theorem distinctIds (hd : t.DistinctIds) : u.DistinctIds := by
  rwa [DistinctIds, h.ids_eq]

theorem links_perm : u.links.Perm t.links := by
  have hends : ∀ id, u.hasId id = t.hasId id := fun id => by rw [hasId, hasId, h.instances]
  simp only [links, hends]
  exact h.connections.filter _

theorem ordered_eq_iff (hd : t.DistinctIds) : u.sequence.ordered = t.sequence.ordered ↔ u.order = t.order := by
  constructor
  · intro heq
    rw [← map_id_ordered (h.distinctIds hd), heq, map_id_ordered hd]
  · intro heq
    have hfind : u.findLast? = t.findLast? := funext fun id => by rw [findLast?, findLast?, h.instances]
    rw [sequence, sequence, heq, hfind]

end Redraws

/-- First come the roots, and then what each of those in order sets free. -/
theorem order_eq_roots_append (hd : t.DistinctIds) :
    t.order = (t.instances.filter fun i => t.IsRoot i).map ResourceInstance.id ++
      t.order.flatMap (freedBy t.links t.order) := by
  have hrun : t.order = (t.ids.filter fun id => degree id (startDegrees t.ids t.links) = 0) ++
      t.order.flatMap (freedBy t.links t.order) :=
    (Queued.start t.links_joins hd).run_eq_append t.instances.length (by simp [ids])
      (order_dependencyOrder hd).nodup rfl
  rwa [free_eq_roots] at hrun

/-- Another order of the connections changes nothing exactly if it leaves what is set free in its order. -/
theorem Redraws.order_eq_iff (h : t.Redraws u) (hd : t.DistinctIds) :
    u.order = t.order ↔ ∀ a ∈ t.order, freedBy u.links t.order a = freedBy t.links t.order a := by
  have hstart := Queued.start t.links_joins hd
  have hstart' := Queued.start u.links_joins (h.distinctIds hd)
  simp only [h.ids_eq, startDegrees_perm h.links_perm] at hstart'
  constructor
  · intro heq a ha
    have horder := order_eq_roots_append (h.distinctIds hd)
    rw [← free_eq_roots, h.ids_eq, startDegrees_perm h.links_perm, free_eq_roots, heq] at horder
    have hfreed := List.append_cancel_left (horder.symm.trans (order_eq_roots_append hd))
    exact List.eq_of_flatMap_eq hfreed (fun a _ => (freedBy_perm h.links_perm t.order a).length_eq) a ha
  · intro hsame
    have hrun := hstart.run_congr t.instances.length hstart' (order_dependencyOrder hd).nodup rfl hsame
    rw [order, order, ← hrun, h.ids_eq, startDegrees_perm h.links_perm, h.instances]

/-- The topology with the connections from one id to another at the end. -/
def drawnLast (t : Topology) (a y : String) : Topology :=
  let between (c : Connection) : Bool := c.source = a && c.target = y
  ⟨t.instances, t.connections.filter (fun c => !between c) ++ t.connections.filter between⟩

theorem redraws_drawnLast (t : Topology) (a y : String) : t.Redraws (t.drawnLast a y) :=
  ⟨rfl, List.perm_append_comm.trans (List.filter_append_perm _ _)⟩

theorem exists_successors_drawnLast {y : String} (hlead : Leads t.links a y) :
    ∃ succs, successors (t.drawnLast a y).links a = succs ++ [y] := by
  let between (c : Connection) : Bool := c.source = a && c.target = y
  have hlinks : (t.drawnLast a y).links =
      (t.connections.filter fun c => !between c).filter (fun c => t.hasId c.source && t.hasId c.target) ++
        (t.connections.filter between).filter (fun c => t.hasId c.source && t.hasId c.target) :=
    List.filter_append _ _
  rw [hlinks, successors, List.filter_append, List.map_append]
  generalize hlast : List.map _ (List.filter _ ((t.connections.filter between).filter _)) = last
  have hy : y ∈ last := by
    rcases hlead with ⟨c, hc, rfl, rfl⟩
    rw [← hlast]
    refine List.mem_map.2 ⟨c, ?_, rfl⟩
    simpa [between, links] using hc
  -- only the connections between the two are drawn last, so that they all lead to the same node
  have hall : ∀ z ∈ last, z = y := by
    intro z hz
    rw [← hlast] at hz
    obtain ⟨c, hc, rfl⟩ := List.mem_map.1 hz
    simp only [between, List.mem_filter, Bool.and_eq_true, decide_eq_true_eq] at hc
    exact hc.1.1.2.2
  rcases List.eq_nil_or_concat last with rfl | ⟨succs, z, rfl⟩
  · exact absurd hy List.not_mem_nil
  · rw [List.concat_eq_append] at *
    obtain rfl := hall z (List.mem_append_right succs List.mem_cons_self)
    exact ⟨_, (List.append_assoc _ _ _).symm⟩

/-- If `a` sets two others free, the first of them comes last after its connections from `a` are put at the end. -/
theorem length_freedBy_le (hsame : ∀ u, t.Redraws u → freedBy u.links t.order a = freedBy t.links t.order a) :
    (freedBy t.links t.order a).length ≤ 1 := by
  cases hfreed : freedBy t.links t.order a with
  | nil => exact Nat.zero_le _
  | cons y rest =>
    have hy : LastSource t.links t.order a y := mem_freedBy.1 (hfreed ▸ List.mem_cons_self)
    have hredraws := t.redraws_drawnLast a y
    have hy' : LastSource (t.drawnLast a y).links t.order a y :=
      (lastSource_congr fun _ _ => leads_perm hredraws.links_perm).2 hy
    obtain ⟨succs, hsuccs⟩ := exists_successors_drawnLast hy.1
    have hsuffix := suffix_freedBy hy' hsuccs
    rw [hsame _ hredraws, hfreed] at hsuffix
    have hnodup : (y :: rest).Nodup := hfreed ▸ (List.nodup_dedup _).filter _
    rcases List.suffix_cons_iff.1 hsuffix with heq | hrest
    · exact (congrArg List.length heq).ge
    · exact absurd (hrest.subset List.mem_cons_self) (List.nodup_cons.1 hnodup).1

/-- The instances in order are the roots, in topology order, and then what each of those in order sets free, in the
order of the last connections from it to them. So the same connections in another order give the same order of the
instances exactly if they keep these in their order, and all of them do exactly if no instance sets two others free. -/
theorem ordered_permute_iff (hd : t.DistinctIds) :
    t.sequence.ordered.map ResourceInstance.id = t.order ∧
      t.order = (t.instances.filter fun i => t.IsRoot i).map ResourceInstance.id ++
        t.order.flatMap (freedBy t.links t.order) ∧
      (∀ u, t.Redraws u → (u.sequence.ordered = t.sequence.ordered ↔
        ∀ a ∈ t.order, freedBy u.links t.order a = freedBy t.links t.order a)) ∧
      ((∀ u, t.Redraws u → u.sequence.ordered = t.sequence.ordered) ↔
        ∀ a ∈ t.order, (freedBy t.links t.order a).length ≤ 1) := by
  have hiff : ∀ u, t.Redraws u → (u.sequence.ordered = t.sequence.ordered ↔
      ∀ a ∈ t.order, freedBy u.links t.order a = freedBy t.links t.order a) :=
    fun u hu => (hu.ordered_eq_iff hd).trans (hu.order_eq_iff hd)
  refine ⟨map_id_ordered hd, order_eq_roots_append hd, hiff, ?_⟩
  constructor
  · intro hsame a ha
    exact length_freedBy_le fun u hu => (hiff u hu).1 (hsame u hu) a ha
  · intro hsingle u hu
    refine (hiff u hu).2 fun a ha => ?_
    -- a single id has no other order
    have hperm := freedBy_perm hu.links_perm t.order a
    match hfreed : freedBy t.links t.order a, hsingle a ha with
    | [], _ => exact (hfreed ▸ hperm).eq_nil
    | [y], _ => exact (hfreed ▸ hperm).eq_singleton

end Topology

/-- Two roots, each with a service behind it, one of them by two connections, and a service behind these. -/
def paired : Topology :=
  let service (id : String) : ResourceInstance := ⟨id, "dotnet-project", id, none, .empty⟩
  ⟨["a", "b", "c", "d", "e"].map service,
    [.make "" "b" "d" .reference, .make "" "d" "e" .reference, .make "" "a" "c" .reference, .make "" "c" "e" .reference,
      .make "" "a" "c" .waitFor]⟩

theorem paired_permute : paired.sequence.ordered.map ResourceInstance.id = ["a", "b", "c", "d", "e"] ∧
    ∀ u, paired.Redraws u → u.sequence.ordered = paired.sequence.ordered := by
  have hd : paired.DistinctIds := by decide
  exact ⟨by decide, (Topology.ordered_permute_iff hd).2.2.2.2 (by decide)⟩

/-- Two services behind a third one, which are drawn in an order other than that of the instances. -/
def forked : Topology :=
  let service (id : String) : ResourceInstance := ⟨id, "dotnet-project", id, none, .empty⟩
  ⟨["a", "b", "c"].map service, [.make "" "a" "c" .reference, .make "" "a" "b" .reference]⟩

/-- The services follow the connections, not the instances. -/
theorem forked_not_permute : forked.DistinctIds ∧ forked.sequence.ordered.map ResourceInstance.id = ["a", "c", "b"] ∧
    ∃ u, forked.Redraws u ∧ u.sequence.ordered.map ResourceInstance.id = ["a", "b", "c"] := by
  refine ⟨by decide, by decide, ⟨forked.instances, forked.connections.reverse⟩, ?_, by decide⟩
  exact ⟨rfl, List.reverse_perm _⟩

end HostTopology
