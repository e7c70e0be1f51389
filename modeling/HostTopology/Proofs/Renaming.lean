import HostTopology.Proofs.Order

/-!
# Renaming — dependency order does not depend on the ids

An `Ordered` list stays so when ids without links are left out, and when all ids are replaced by
others. Places in a list are compared by `List.idxOf`, so this rests on how places change:

* `idxOf_lt_iff_of_sublist` — the members of a part stand in the same order as in the whole;
* `idxOf_map` — a member stands in the same place when all are renamed.
-/

namespace HostTopology
namespace Sequence

variable {links links' : List Connection} {order part l : List String} {a b : String} {f : String → String}

/-! ## Places -/

theorem idxOf_lt_iff_of_sublist (hn : l.Nodup) (hs : part.Sublist l) (ha : a ∈ part) (hb : b ∈ part) :
    part.idxOf a < part.idxOf b ↔ l.idxOf a < l.idxOf b := by
  have hpart := pairwise_idxOf (hn.sublist hs)
  have hwhole := (pairwise_idxOf hn).sublist hs
  -- `b` stands before `a` or behind it, in the part and in the whole alike
  rcases List.append_of_mem ha with ⟨before, after, hsplit⟩
  rw [hsplit, List.pairwise_append, List.pairwise_cons] at hpart hwhole
  rw [hsplit] at hb
  rcases List.mem_append.1 hb with hb | hb
  · have h₁ := hpart.2.2 b hb a List.mem_cons_self
    have h₂ := hwhole.2.2 b hb a List.mem_cons_self
    rw [← hsplit] at h₁
    omega
  · rcases List.mem_cons.1 hb with rfl | hb
    · omega
    · have h₁ := hpart.2.1.1 b hb
      have h₂ := hwhole.2.1.1 b hb
      rw [← hsplit] at h₁
      omega

theorem idxOf_map (hf : ∀ x ∈ l, ∀ y ∈ l, f x = f y → x = y) (ha : a ∈ l) :
    (l.map f).idxOf (f a) = l.idxOf a := by
  rcases List.eq_append_cons_of_mem ha with ⟨before, after, hsplit, hnot⟩
  have hnot' : f a ∉ before.map f := by
    intro hmem
    rcases List.mem_map.1 hmem with ⟨x, hx, hfx⟩
    have hxl : x ∈ l := hsplit ▸ List.mem_append_left _ hx
    exact hnot (hf x hxl a ha hfx ▸ hx)
  rw [hsplit, List.map_append, List.map_cons, List.idxOf_append_of_notMem hnot', List.idxOf_cons_self,
    List.idxOf_append_of_notMem hnot, List.idxOf_cons_self, List.length_map]

/-! ## Ordered lists -/

/-- Ids without links can be left out. -/
theorem Ordered.of_sublist (h : Ordered links order) (hn : order.Nodup) (hs : part.Sublist order)
    (hends : ∀ a b, Leads links a b → a ∈ part ∧ b ∈ part) : Ordered links part := by
  constructor
  · intro x hx a ha
    have hmem := (hends a x ha).1
    refine ⟨hmem, ?_⟩
    rw [idxOf_lt_iff_of_sublist hn hs hmem hx]
    exact (h.sources x (hs.subset hx) a ha).2
  · refine (h.fifo.sublist hs).imp_of_mem ?_
    intro x y hx hy hxy a ha
    rcases hxy a ha with ⟨b, hb, hle⟩
    refine ⟨b, hb, ?_⟩
    have hiff := idxOf_lt_iff_of_sublist hn hs (hends b y hb).1 (hends a x ha).1
    omega

/-- All ids can be renamed. -/
theorem Ordered.map (h : Ordered links order) (hf : ∀ x ∈ order, ∀ y ∈ order, f x = f y → x = y)
    (hends : ∀ a b, Leads links a b → a ∈ order ∧ b ∈ order)
    (hleads : ∀ a' b', Leads links' a' b' ↔ ∃ a b, Leads links a b ∧ f a = a' ∧ f b = b') :
    Ordered links' (order.map f) := by
  constructor
  · intro x' hx' a' ha'
    rcases (hleads a' x').1 ha' with ⟨a, x, hlead, rfl, rfl⟩
    rcases hends a x hlead with ⟨ha, hx⟩
    refine ⟨List.mem_map_of_mem ha, ?_⟩
    rw [idxOf_map hf ha, idxOf_map hf hx]
    exact (h.sources x hx a hlead).2
  · rw [List.pairwise_map]
    refine h.fifo.imp_of_mem ?_
    intro x y hx hy hxy a' ha'
    rcases (hleads a' (f x)).1 ha' with ⟨a, x₁, hlead, rfl, hx₁⟩
    rcases hends a x₁ hlead with ⟨ha, hx₁mem⟩
    -- only `x` itself has the new name of `x`
    obtain rfl := hf x₁ hx₁mem x hx hx₁
    rcases hxy a hlead with ⟨b, hb, hle⟩
    refine ⟨f b, (hleads (f b) (f y)).2 ⟨b, y, hb, rfl, rfl⟩, ?_⟩
    rw [idxOf_map hf ha, idxOf_map hf (hends b y hb).1]
    exact hle

end Sequence
end HostTopology
