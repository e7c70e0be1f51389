import HostTopology.Proofs.Allocation
import HostTopology.Proofs.Dependencies
import HostTopology.Proofs.Entries

/-!
# Positions — ids and positions tell the same

An import keeps its drafts, aliases and edges under ids that it hands out while it reads. A sketch of the same file
has positions in their place. The two go through a file side by side:

* `Collection.Follows` — a collection stands for a sketch: the id at a position is the one that was handed out for it;
* `Follows.push`, `Follows.bind`, `Follows.change`, `Follows.join` — whatever is done to both, it stands for it still;
* `follows_readResource`, `follows_readDatabase`, `agree_readStatement`, `follows_readService`,
  `follows_readDependencies` — one step of each pass;
* `Format.read_eq_map` — the import of a file is its sketch with ids;
* `read_reserved` — other reserved ids change nothing but the numbers.
-/

/-- Two computations fail alike, or their results are related. -/
inductive Except.Agree {ε α β : Type} (R : α → β → Prop) : Except ε α → Except ε β → Prop
  | error (e : ε) : Agree R (.error e) (.error e)
  | ok {a : α} {b : β} (h : R a b) : Agree R (.ok a) (.ok b)

namespace Except.Agree

variable {ε α β γ δ : Type} {R : α → β → Prop} {S : γ → δ → Prop} {x : Except ε α} {y : Except ε β}

theorem refl (x : Except ε α) : Agree Eq x x := by
  cases x with
  | error e => exact .error e
  | ok a => exact .ok rfl

theorem bind {f : α → Except ε γ} {g : β → Except ε δ} (h : Agree R x y) (hnext : ∀ a b, R a b → Agree S (f a) (g b)) :
    Agree S (x >>= f) (y >>= g) := by
  cases h with
  | error e => exact .error e
  | ok h => exact hnext _ _ h

theorem map_eq {f : α → γ} {g : β → γ} (h : Agree (fun a b => f a = g b) x y) : x.map f = y.map g := by
  cases h with
  | error e => rfl
  | ok h => exact congrArg Except.ok h

theorem foldlM {ι : Type} {f : α → ι → Except ε α} {g : β → ι → Except ε β} {l : List ι}
    (hstep : ∀ a b i, R a b → Agree R (f a i) (g b i)) {a : α} {b : β} (h : R a b) :
    Agree R (l.foldlM f a) (l.foldlM g b) := by
  induction l generalizing a b with
  | nil => exact .ok h
  | cons i l ih =>
    rw [List.foldlM_cons, List.foldlM_cons]
    exact (hstep a b i h).bind fun _ _ h => ih h

end Except.Agree

namespace HostTopology

open IdAllocator

variable {reserved : List String}

/-- Connections in the order of the edges. -/
theorem Topology.ofDrafts_eq (drafts : List (String × Draft)) (edges : List (String × String)) :
    ofDrafts drafts edges =
      ⟨drafts.map fun d => d.2.withId d.1, edges.map fun e => .make "" e.1 e.2 .reference⟩ := by
  have hconnect : ∀ t : Topology, edges.foldl (fun t e => t.connect e.1 e.2 .reference "") t =
      { t with connections := t.connections ++ edges.map fun e => .make "" e.1 e.2 .reference } := by
    induction edges with
    | nil => simp
    | cons e edges ih =>
      intro t
      rw [List.foldl_cons, ih]
      simp [connect]
  rw [ofDrafts, hconnect, List.nil_append]

namespace Collection

/-! ## Collections that stand for sketches -/

/-- The ids that have been handed out. -/
def keys (c : Collection) : List String :=
  c.drafts.map Prod.fst

/-- The id at a position. -/
def keyAt (c : Collection) (n : Nat) : String :=
  c.keys.getD n ""

/-- The ids of the two ends of a link. -/
def edgeOf (c : Collection) (l : Nat × Nat) : String × String :=
  (c.keyAt l.1, c.keyAt l.2)

/-- A draft under the next id, which no name stands for yet. -/
def push (c : Collection) (d : Draft) : Collection :=
  { c with ids := c.ids.allocate.2, drafts := Entries.put c.drafts c.ids.allocate.1 d }

theorem keyAt_congr {c c' : Collection} (h : c'.keys = c.keys) : c'.keyAt = c.keyAt :=
  funext fun n => congrArg (List.getD · n "") h

theorem edgeOf_congr {c c' : Collection} (h : c'.keys = c.keys) : c'.edgeOf = c.edgeOf :=
  funext fun l => by rw [edgeOf, edgeOf, keyAt_congr h]

theorem keys_change (c : Collection) (id : String) (f : Draft → Draft) : (c.change id f).keys = c.keys := by
  change (Entries.change c.drafts id f).map Prod.fst = c.drafts.map Prod.fst
  rw [Entries.change, List.map_map]
  refine List.map_congr_left fun e _ => ?_
  rw [Function.comp_apply]
  split_ifs <;> rfl

theorem keys_join (c : Collection) (source target : String) : (c.join source target).keys = c.keys := by
  rw [join]
  split_ifs <;> rfl

/-- A collection stands for a sketch. Its ids came from an allocator, one for each draft. Names stand for the ids at
the positions that they stand for in the sketch, and edges lead from id to id as links do between positions. -/
structure Follows (reserved : List String) (c : Collection) (s : Sketch) (positionOf : String → Option Nat) :
    Prop where
  allocated : ∃ turns, Calls (.start reserved) turns c.keys c.ids
  drafts : c.drafts.map Prod.snd = s.drafts
  aliases : ∀ name, c.aliases.lookup name = (positionOf name).map c.keyAt
  lt_of_alias : ∀ name n, positionOf name = some n → n < s.drafts.length
  edges : c.edges = s.links.map c.edgeOf
  lt_of_link : ∀ l ∈ s.links, l.1 < s.drafts.length ∧ l.2 < s.drafts.length
  warnings : c.warnings = s.warnings

namespace Follows

variable {c : Collection} {s : Sketch} {positionOf : String → Option Nat} {n m : Nat}

theorem keys_eq (h : c.Follows reserved s positionOf) : c.keys = freshIds reserved s.drafts.length := by
  obtain ⟨turns, hcalls⟩ := h.allocated
  rw [hcalls.eq_freshIds, ← h.drafts, keys, List.length_map, List.length_map]

theorem nodup_keys (h : c.Follows reserved s positionOf) : c.keys.Nodup :=
  h.keys_eq ▸ nodup_freshIds _ _

theorem length_keys (h : c.Follows reserved s positionOf) : c.keys.length = s.drafts.length := by
  rw [h.keys_eq, length_freshIds]

theorem drafts_eq (h : c.Follows reserved s positionOf) : c.drafts = c.keys.zip s.drafts := by
  rw [← h.drafts, keys, List.zip_map', List.map_id']

theorem getElem?_keys (h : c.Follows reserved s positionOf) (hn : n < s.drafts.length) :
    c.keys[n]? = some (c.keyAt n) := by
  rw [← h.length_keys] at hn
  rw [keyAt, List.getElem?_eq_getElem hn, List.getD_eq_getElem _ _ hn]

theorem keyAt_inj (h : c.Follows reserved s positionOf) (hn : n < s.drafts.length) (hm : m < s.drafts.length) :
    c.keyAt n = c.keyAt m ↔ n = m := by
  refine ⟨fun heq => ?_, congrArg _⟩
  rw [← h.length_keys] at hn
  refine (List.getElem?_inj hn h.nodup_keys).1 ?_
  rw [h.getElem?_keys (h.length_keys ▸ hn), h.getElem?_keys hm, heq]

theorem mem_edges_iff (h : c.Follows reserved s positionOf) {l : Nat × Nat} (hsource : l.1 < s.drafts.length)
    (htarget : l.2 < s.drafts.length) : c.edgeOf l ∈ c.edges ↔ l ∈ s.links := by
  rw [h.edges, List.mem_map]
  constructor
  · rintro ⟨l', hl', heq⟩
    obtain ⟨hsource', htarget'⟩ := h.lt_of_link l' hl'
    obtain ⟨hfst, hsnd⟩ := Prod.mk.inj heq
    rwa [← Prod.ext ((h.keyAt_inj hsource' hsource).1 hfst) ((h.keyAt_inj htarget' htarget).1 hsnd)]
  · exact fun hl => ⟨l, hl, rfl⟩

/-! ### Steps -/

theorem start (reserved : List String) : (Collection.start reserved).Follows reserved .empty fun _ => none where
  allocated := ⟨0, .nil _⟩
  drafts := rfl
  aliases _ := rfl
  lt_of_alias := nofun
  edges := rfl
  lt_of_link := nofun
  warnings := rfl

theorem warn (h : c.Follows reserved s positionOf) (warnings : List String) :
    (c.warn warnings).Follows reserved { s with warnings := s.warnings ++ warnings } positionOf :=
  { h with warnings := congrArg (· ++ warnings) h.warnings }

/-- A name is bound to the same draft on both sides. -/
theorem bind (h : c.Follows reserved s positionOf) (name : String) (hn : n < s.drafts.length) :
    (c.bind name (c.keyAt n)).Follows reserved s (Function.update positionOf name (some n)) :=
  { h with
    aliases := fun k => by
      change (Entries.put c.aliases name (c.keyAt n)).lookup k = _
      rw [Entries.lookup_put, h.aliases, Function.update_apply]
      split_ifs <;> rfl
    lt_of_alias := fun k m hk => by
      rw [Function.update_apply] at hk
      split_ifs at hk
      · exact Option.some.inj hk ▸ hn
      · exact h.lt_of_alias k m hk }

theorem change (h : c.Follows reserved s positionOf) (hn : n < s.drafts.length) (f : Draft → Draft) :
    (c.change (c.keyAt n) f).Follows reserved (s.modify n f) positionOf := by
  have hdrafts : (c.change (c.keyAt n) f).drafts = c.keys.zip (s.drafts.modify n f) := by
    change Entries.change c.drafts (c.keyAt n) f = _
    rw [h.drafts_eq, Entries.change_zip h.nodup_keys (h.getElem?_keys hn)]
  have hkeys := keys_change c (c.keyAt n) f
  have hcount : (s.modify n f).drafts.length = s.drafts.length := List.length_modify ..
  refine ⟨hkeys ▸ h.allocated, ?_, ?_, ?_, ?_, ?_, h.warnings⟩
  · rw [hdrafts, List.map_snd_zip (by rw [List.length_modify, h.length_keys])]
    rfl
  · rw [keyAt_congr hkeys]
    exact h.aliases
  · exact hcount ▸ h.lt_of_alias
  · rw [edgeOf_congr hkeys]
    exact h.edges
  · exact hcount ▸ h.lt_of_link

/-- Both sides leave out what they have already. -/
theorem join (h : c.Follows reserved s positionOf) (hn : n < s.drafts.length) (hm : m < s.drafts.length) :
    (c.join (c.keyAt n) (c.keyAt m)).Follows reserved (s.addLink n m) positionOf := by
  -- an edge is there already exactly if the link is, as different positions have different ids
  have hold : (c.keyAt n = c.keyAt m ∨ (c.keyAt n, c.keyAt m) ∈ c.edges) ↔ n = m ∨ (n, m) ∈ s.links :=
    or_congr (h.keyAt_inj hn hm) (h.mem_edges_iff (l := (n, m)) hn hm)
  rw [Collection.join, Sketch.addLink]
  by_cases hlink : n = m ∨ (n, m) ∈ s.links
  · rwa [if_pos hlink, if_pos (hold.2 hlink)]
  · rw [if_neg hlink, if_neg (hold.not.2 hlink)]
    exact { h with
      edges := by
        change c.edges ++ [c.edgeOf (n, m)] = (s.links ++ [(n, m)]).map c.edgeOf
        rw [List.map_append, h.edges, List.map_singleton]
      lt_of_link := by
        intro l hl
        rcases List.mem_append.1 hl with hl | hl
        · exact h.lt_of_link l hl
        · obtain rfl := List.mem_singleton.1 hl
          exact ⟨hn, hm⟩ }

/-- One more id has been handed out, and it is a new one. -/
theorem exists_calls (h : c.Follows reserved s positionOf) :
    ∃ turns, Calls (.start reserved) turns (c.keys ++ [c.ids.allocate.1]) c.ids.allocate.2 := by
  obtain ⟨_, hcalls⟩ := h.allocated
  obtain ⟨_, hcall⟩ := call_allocate c.ids
  exact hcalls.concat hcall

theorem allocate_notMem (h : c.Follows reserved s positionOf) : c.ids.allocate.1 ∉ c.keys := by
  obtain ⟨_, hcalls⟩ := h.exists_calls
  have hnodup : (c.keys ++ [c.ids.allocate.1]).Nodup := hcalls.eq_freshIds ▸ nodup_freshIds _ _
  exact fun hmem => (List.nodup_append.1 hnodup).2.2 _ hmem _ List.mem_cons_self rfl

theorem drafts_push (h : c.Follows reserved s positionOf) (d : Draft) :
    (c.push d).drafts = c.drafts ++ [(c.ids.allocate.1, d)] :=
  Entries.put_of_notMem h.allocate_notMem

theorem keys_push (h : c.Follows reserved s positionOf) (d : Draft) : (c.push d).keys = c.keys ++ [c.ids.allocate.1] := by
  rw [keys, h.drafts_push, List.map_append]
  rfl

/-- Ids that have been handed out stay where they are. -/
theorem keyAt_push (h : c.Follows reserved s positionOf) (d : Draft) (hn : n < s.drafts.length) :
    (c.push d).keyAt n = c.keyAt n := by
  rw [keyAt, h.keys_push, List.getD_append _ _ _ _ (h.length_keys ▸ hn), keyAt]

theorem keyAt_push_last (h : c.Follows reserved s positionOf) (d : Draft) :
    (c.push d).keyAt s.drafts.length = c.ids.allocate.1 := by
  rw [keyAt, h.keys_push, ← h.length_keys, List.getD_append_right _ _ _ _ le_rfl, Nat.sub_self]
  rfl

/-- A new draft gets the next id on one side and the next position on the other. -/
theorem push (h : c.Follows reserved s positionOf) (d : Draft) :
    (c.push d).Follows reserved { s with drafts := s.drafts ++ [d] } positionOf := by
  have hcount : (s.drafts ++ [d]).length = s.drafts.length + 1 := by simp
  refine ⟨?_, ?_, fun k => ?_, fun k n hk => ?_, ?_, fun l hl => ?_, h.warnings⟩
  · rw [h.keys_push]
    exact h.exists_calls
  · rw [h.drafts_push, List.map_append, h.drafts]
    rfl
  · change c.aliases.lookup k = _
    rw [h.aliases]
    exact Option.map_congr fun n hn => (h.keyAt_push d (h.lt_of_alias k n hn)).symm
  · exact hcount ▸ Nat.lt_succ_of_lt (h.lt_of_alias k n hk)
  · change c.edges = _
    rw [h.edges]
    refine List.map_congr_left fun l hl => ?_
    obtain ⟨hsource, htarget⟩ := h.lt_of_link l hl
    rw [edgeOf, edgeOf, h.keyAt_push d hsource, h.keyAt_push d htarget]
  · obtain ⟨hsource, htarget⟩ := h.lt_of_link l hl
    exact ⟨hcount ▸ Nat.lt_succ_of_lt hsource, hcount ▸ Nat.lt_succ_of_lt htarget⟩

/-- The name of a new draft stands for it on both sides. -/
theorem add (h : c.Follows reserved s positionOf) (name : String) (d : Draft) :
    (c.add name d).Follows reserved { s with drafts := s.drafts ++ [d] }
      (Function.update positionOf name (some s.drafts.length)) := by
  have hlast : s.drafts.length < (s.drafts ++ [d]).length := by simp
  have hbound := (h.push d).bind name hlast
  rwa [h.keyAt_push_last] at hbound

/-- The ids are those of an import. -/
theorem imported (h : c.Follows reserved s positionOf) : c.imported = s.imported reserved := by
  have hdrafts : (c.drafts.map fun d => d.2.withId d.1) = s.drafts.zipWith Draft.withId c.keys := by
    rw [h.drafts_eq, List.zip, List.map_zipWith, List.zipWith_comm]
  have hedges : (c.edges.map fun e => Connection.make "" e.1 e.2 .reference) = s.links.map (Sketch.connection c.keys) := by
    rw [h.edges, List.map_map]
    rfl
  rw [Collection.imported, Topology.ofDrafts_eq, Sketch.imported, hdrafts, hedges, h.keys_eq, h.warnings]

end Follows
end Collection

/-! ## AppHosts -/

namespace AppHost

open Text Collection

variable {r : Registry} {c : Collection} {s : Reading}

/-- A collection and a reading of the same statements. -/
def Keeps (reserved : List String) (c : Collection) (s : Reading) : Prop :=
  c.Follows reserved s.sketch fun name => s.positions.lookup name

/-- A variable that comes later hides those before it. -/
theorem lookup_bind (s : Reading) (name : String) (n : Nat) :
    (fun k => (s.bind name n).positions.lookup k) =
      Function.update (fun k => s.positions.lookup k) name (some n) := by
  funext k
  rw [Reading.bind, Entries.lookup_cons, Function.update_apply]

theorem keeps_readResource (h : Keeps reserved c s) (r : Registry) (call : ResourceCall) :
    Keeps reserved (readResource r c call) (s.addResource r call) := by
  rw [readResource, Reading.addResource]
  cases r.findByBuilder? call.method with
  | none => exact h.warn _
  | some type =>
    rw [Keeps, lookup_bind]
    exact h.add call.name _

theorem keeps_readDatabase (h : Keeps reserved c s) (call : DatabaseCall) :
    Keeps reserved (readDatabase c call) (s.addDatabase call) := by
  rw [readDatabase, Reading.addDatabase, h.aliases]
  cases hserver : s.positions.lookup call.server with
  | none => exact h
  | some n =>
    have hn := h.lt_of_alias _ _ hserver
    have hchange := h.change hn fun d => { d with database := some call.database }
    have hbind := hchange.bind call.name (n := n) (by rwa [Sketch.modify, List.length_modify])
    rw [keyAt_congr (keys_change ..)] at hbind
    rw [Keeps, lookup_bind]
    exact hbind

/-- References make edges on one side and links on the other. -/
theorem follows_references {sketch : Sketch} {positionOf : String → Option Nat} {n : Nat}
    (h : c.Follows reserved sketch positionOf) (hn : n < sketch.drafts.length) (names : List String) :
    (names.foldl (readReference (c.keyAt n)) c).Follows reserved
      ((names.filterMap positionOf).foldl (fun sketch m => sketch.addLink m n) sketch) positionOf ∧
    (names.foldl (readReference (c.keyAt n)) c).keys = c.keys := by
  induction names generalizing c sketch with
  | nil => exact ⟨h, rfl⟩
  | cons name names ih =>
    rw [List.foldl_cons, readReference, h.aliases]
    cases hposition : positionOf name with
    | none =>
      rw [List.filterMap_cons_none hposition]
      exact ih h hn
    | some m =>
      -- the ids stay where they are, so that the next reference is one of the same instance
      have hkeys := keys_join c (c.keyAt m) (c.keyAt n)
      have hrest := ih (h.join (h.lt_of_alias _ _ hposition) hn) (by rwa [Sketch.drafts_addLink])
      rw [keyAt_congr hkeys] at hrest
      rw [List.filterMap_cons_some hposition]
      exact ⟨hrest.1, hrest.2.trans hkeys⟩

theorem agree_readStatement (h : Keeps reserved c s) (statement : List Char) :
    Except.Agree (Keeps reserved) (readStatement c statement) (s.apply statement) := by
  rw [readStatement, Reading.apply]
  cases owner statement with
  | none => exact .ok h
  | some found =>
    obtain ⟨name, rest⟩ := found
    simp only [Option.bind_some, h.aliases name]
    cases hname : s.positions.lookup name with
    | none => exact .ok h
    | some n =>
      have hn := h.lt_of_alias name n hname
      have hdraft : c.drafts.lookup (c.keyAt n) = s.sketch.drafts[n]? := by
        rw [h.drafts_eq, Entries.lookup_zip h.nodup_keys (h.getElem?_keys hn)]
      simp only [Option.map_some, hdraft]
      cases s.sketch.drafts[n]? with
      | none => exact .ok h
      | some draft =>
        -- both read the same configuration or fail at it
        refine (Except.Agree.refl _).bind fun config _ hconfig => .ok ?_
        subst hconfig
        obtain ⟨hreferences, hkeys⟩ := follows_references h hn (Scan.all referenceCall statement)
        have hchange := hreferences.change (n := n) (by rwa [← hreferences.length_keys, hkeys, h.length_keys])
          fun d => { d with config := config }
        rw [keyAt_congr hkeys] at hchange
        exact hchange

/-- Nothing is found on one side exactly if nothing is on the other. -/
theorem isEmpty_drafts {sketch : Sketch} {positionOf : String → Option Nat} (h : c.Follows reserved sketch positionOf) :
    c.drafts.isEmpty = sketch.drafts.isEmpty := by
  rw [← h.drafts, List.isEmpty_map]

theorem agree_ofAppHost (r : Registry) (reserved : List String) (text : String) :
    Except.Agree (fun c sketch => c.imported = sketch.imported reserved) (Collection.ofAppHost r reserved text)
      (Sketch.ofAppHost r text) := by
  have hresources : ∀ calls : List ResourceCall, Keeps reserved (calls.foldl (readResource r) (.start reserved))
      (calls.foldl (Reading.addResource r) .empty) := fun calls =>
    List.foldl_rel (Follows.start reserved) fun call _ c s h => keeps_readResource h r call
  have hdatabases : ∀ (calls : List DatabaseCall) c s, Keeps reserved c s →
      Keeps reserved (calls.foldl readDatabase c) (calls.foldl Reading.addDatabase s) := fun calls c s h =>
    List.foldl_rel h fun call _ c s h => keeps_readDatabase h call
  refine (Except.Agree.foldlM (fun c s statement h => agree_readStatement h statement)
    (hdatabases _ _ _ (hresources _))).bind fun c s h => .ok ?_
  rw [isEmpty_drafts h]
  split
  · exact (h.warn [nothingFound]).imported
  · exact h.imported

end AppHost

/-! ## Compose files -/

namespace Compose

open Collection

variable {c : Collection} {ss : List Service}

theorem position?_concat (ss : List Service) (s : Service) :
    position? (ss ++ [s]) = Function.update (position? ss) s.name (some ss.length) := by
  funext name
  rw [Function.update_apply, position?, List.zipIdx_append, List.reverse_append]
  by_cases hname : name = s.name
  · simp [hname]
  · simp [position?, hname, Ne.symm hname]

/-- The sketch of services without what they need. -/
def unlinked (r : Registry) (ss : List Service) : Sketch :=
  ⟨ss.map (Service.draft r), [], ss.flatMap (Service.warnings r)⟩

theorem follows_readService {r : Registry} (h : c.Follows reserved (unlinked r ss) (position? ss)) (s : Service) :
    (readService r c s).Follows reserved (unlinked r (ss ++ [s])) (position? (ss ++ [s])) := by
  have hadd := (h.warn (s.warnings r)).add s.name (s.draft r)
  have hlength : (unlinked r ss).drafts.length = ss.length := List.length_map ..
  rw [hlength] at hadd
  rw [position?_concat, readService]
  have hsketch : unlinked r (ss ++ [s]) = { unlinked r ss with
      drafts := (unlinked r ss).drafts ++ [s.draft r]
      warnings := (unlinked r ss).warnings ++ s.warnings r } := by
    simp [unlinked]
  rw [hsketch]
  exact hadd

theorem follows_services (r : Registry) (ss : List Service) :
    (ss.foldl (readService r) (.start reserved)).Follows reserved (unlinked r ss) (position? ss) := by
  induction ss using List.reverseRecOn with
  | nil => exact Follows.start reserved
  | append_singleton ss s ih =>
    rw [List.foldl_concat]
    exact follows_readService ih s

/-- Every service is found under its name, or a later one is. -/
theorem exists_position? {s : Service} (hs : s ∈ ss) : ∃ n, position? ss s.name = some n := by
  obtain ⟨n, hn⟩ := List.mem_iff_getElem?.1 hs
  have hfound : (ss.zipIdx.reverse.find? fun e => e.1.name = s.name).isSome = true := by
    rw [List.find?_isSome]
    exact ⟨(s, n), List.mem_reverse.2 (List.mem_zipIdx_iff_getElem?.2 hn), by simp⟩
  obtain ⟨e, he⟩ := Option.isSome_iff_exists.1 hfound
  exact ⟨e.2, by rw [position?, he, Option.map_some]⟩

/-- What a service needs makes an edge on one side and a link on the other, or the same warning on both. -/
theorem follows_readDependency {sketch : Sketch} {s : Service} {n : Nat}
    (h : c.Follows reserved sketch (position? ss)) (hn : position? ss s.name = some n) (needed : String) :
    (readDependency s (c.keyAt n) c needed).Follows reserved (addDependency ss s sketch needed) (position? ss) ∧
      (readDependency s (c.keyAt n) c needed).keys = c.keys := by
  rw [readDependency, addDependency, h.aliases, hn]
  cases hneeded : position? ss needed with
  | none => exact ⟨h.warn _, rfl⟩
  | some m => exact ⟨h.join (h.lt_of_alias _ m hneeded) (h.lt_of_alias _ n hn), keys_join ..⟩

theorem follows_readDependencies {sketch : Sketch} {s : Service} (h : c.Follows reserved sketch (position? ss))
    (hs : s ∈ ss) :
    (readDependencies c s).Follows reserved (s.dependsOn.foldl (addDependency ss s) sketch) (position? ss) := by
  obtain ⟨n, hn⟩ := exists_position? hs
  have hrun : ∀ (names : List String) (c : Collection) (sketch : Sketch), c.Follows reserved sketch (position? ss) →
      (names.foldl (readDependency s (c.keyAt n)) c).Follows reserved (names.foldl (addDependency ss s) sketch)
        (position? ss) := by
    intro names
    induction names with
    | nil => exact fun c sketch h => h
    | cons needed names ih =>
      intro c sketch h
      obtain ⟨hnext, hkeys⟩ := follows_readDependency h hn needed
      -- the service that needs them has the same id all the time
      have hrest := ih _ _ hnext
      rwa [keyAt_congr hkeys] at hrest
  rw [readDependencies, h.aliases, hn, Option.map_some]
  exact hrun s.dependsOn c sketch h

theorem imported_ofCompose (r : Registry) (reserved : List String) (text : String) :
    (Collection.ofCompose r reserved text).imported = (Sketch.ofCompose r text).imported reserved := by
  let sketch := addDependencies (services text) (unlinked r (services text)) (dependencies (services text))
  have h : ((services text).foldl readDependencies ((services text).foldl (readService r) (.start reserved))).Follows
      reserved sketch (position? (services text)) := by
    have hpass : sketch = (services text).foldl
        (fun sketch s => s.dependsOn.foldl (addDependency (services text) s) sketch) (unlinked r (services text)) := by
      simp only [sketch, addDependencies, dependencies, List.foldl_flatMap, List.foldl_map]
    rw [hpass]
    exact List.foldl_rel (r := fun c sketch => Collection.Follows reserved c sketch (position? (services text)))
      (follows_services r (services text)) fun s hs c sketch h => follows_readDependencies h hs
  have hdrafts : sketch.drafts = (services text).map (Service.draft r) := drafts_addDependencies ..
  rw [Collection.ofCompose, ofCompose_eq]
  simp only [AppHost.isEmpty_drafts h, hdrafts, List.isEmpty_map]
  split
  · exact (h.warn [nothingFound]).imported
  · exact h.imported

end Compose

/-! ## Files -/

/-- The one draft of a Dockerfile gets the first id. -/
theorem Imported.ofDockerfile_eq (reserved : List String) (fileName text : String) :
    ofDockerfile reserved fileName text = (Sketch.ofDockerfile fileName text).imported reserved := by
  obtain ⟨_, hcall⟩ := call_allocate (start reserved)
  have hid : [(start reserved).allocate.1] = freshIds reserved 1 := (Calls.cons hcall (.nil _)).eq_freshIds
  change Imported.mk (.ofDrafts [((start reserved).allocate.1, _)] []) _ =
    Imported.mk ⟨[_].zipWith Draft.withId (freshIds reserved 1), []⟩ _
  rw [← hid]
  rfl

namespace Format

variable {f : Format} {r : Registry} {fileName text : String}

/-- What is imported is what the file says, with new ids. -/
theorem read_eq_map (f : Format) (r : Registry) (reserved : List String) (fileName text : String) :
    f.read r reserved fileName text = (f.sketch r fileName text).map fun s => s.imported reserved := by
  cases f with
  | appHost => exact (AppHost.agree_ofAppHost r reserved text).map_eq
  | compose => exact congrArg Except.ok (Compose.imported_ofCompose r reserved text)
  | dockerfile => exact congrArg Except.ok (Imported.ofDockerfile_eq reserved fileName text)

theorem read_eq_ok_iff {found : Imported} : f.read r reserved fileName text = .ok found ↔
    ∃ s, f.sketch r fileName text = .ok s ∧ s.imported reserved = found := by
  rw [read_eq_map]
  cases f.sketch r fileName text <;> simp [Except.map]

theorem read_eq {s : Sketch} (h : f.sketch r fileName text = .ok s) :
    f.read r reserved fileName text = .ok (s.imported reserved) :=
  read_eq_ok_iff.2 ⟨s, h, rfl⟩

theorem read_appHost (r : Registry) (reserved : List String) (fileName text : String) :
    appHost.read r reserved fileName text = (Sketch.ofAppHost r text).map fun s => s.imported reserved :=
  read_eq_map ..

end Format

/-! ## Other reserved ids -/

/-- Reserved ids only rename: whether a file can be read does not depend on them, and neither does what is
read, apart from the numbers of the ids. -/
theorem read_reserved {f : Format} {r : Registry} {fileName text : String} {found : Imported}
    (h : f.read r reserved fileName text = .ok found) (reserved' : List String) :
    ∃ found', f.read r reserved' fileName text = .ok found' ∧ found'.warnings = found.warnings ∧
      ∃ rename : String → String, KeepsOrder rename found.topology.ids found'.topology.ids ∧
        found'.topology = found.topology.renumber rename := by
  obtain ⟨s, hs, rfl⟩ := Format.read_eq_ok_iff.1 h
  refine ⟨s.imported reserved', Format.read_eq hs, rfl, _, ?_, s.imported_renumber reserved reserved'⟩
  rw [s.ids_imported, s.ids_imported]
  refine keepsOrder_counterpart (nodup_freshIds _ _) (nodup_freshIds _ _) ?_
  rw [length_freshIds, length_freshIds]

/-- A service that needs a database. -/
def serving : String :=
  "services:\n  web:\n    image: nginx\n    depends_on: [db]\n  db:\n    image: postgres\n"

def served (web db : String) : Topology where
  instances := [⟨web, "container", "web", none, .empty⟩, ⟨db, "postgres", "db", none, .empty⟩]
  connections := [.make "" db web .reference]

theorem serving_reserved :
    Format.compose.read .standard [] "" serving = .ok ⟨served "imported_1000" "imported_1001", []⟩ ∧
    ∃ found, Format.compose.read .standard ["imported_1000", "imported_1002"] "" serving = .ok found ∧
      found.warnings = [] ∧ ∃ rename : String → String,
        KeepsOrder rename ["imported_1000", "imported_1001"] found.topology.ids ∧
          found.topology = (served "imported_1000" "imported_1001").renumber rename := by
  have hread : Format.compose.read .standard [] "" serving =
      .ok ⟨served "imported_1000" "imported_1001", []⟩ := (Format.read_eq_map ..).trans (by decide +kernel)
  exact ⟨hread, read_reserved hread ["imported_1000", "imported_1002"]⟩

end HostTopology
