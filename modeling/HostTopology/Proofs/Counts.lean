import HostTopology.Proofs.Outline
import HostTopology.Proofs.Plain

/-!
# Counts — the files that can be read to their end

Whatever is not understood in a file is passed over, so that every file gives a topology. One thing ends
the reading of an AppHost: a number of replicas with too many digits, in a statement about a variable
that stands for an instance.

* `isReadable_iff` — a number of replicas can be read if its digits are not too many;
* `Reading.IsAnchored` — variables stand for instances that are there, before and after every statement;
* `read_iff` — the files that give a topology.
-/

namespace HostTopology
namespace AppHost

open Text Scan

variable {r : Registry} {s s' : Reading} {f : List Char} {positions : List (String × Nat)} {position : Nat}

/-! ## Numbers of replicas -/

theorem exists_of_first? {α : Type} {p : Scan α} {cs : List Char} {a : α} (h : first? p cs = some a) :
    ∃ ys rest, p ys = some (a, rest) := by
  induction cs with
  | nil => cases h
  | cons c cs ih =>
    rw [first?] at h
    cases hp : p (c :: cs) with
    | none =>
      rw [hp] at h
      exact ih h
    | some found =>
      rw [hp] at h
      obtain rfl := Option.some.inj h
      exact ⟨c :: cs, found.2, hp⟩

theorem isDecimal_of_replicasCall {cs digits rest : List Char} (h : replicasCall cs = some (digits, rest)) :
    ∀ c ∈ digits, isDecimal c = true := by
  rcases bind_eq_some.1 h with ⟨-, after, -, h⟩
  rcases bind_eq_some.1 h with ⟨-, inside, -, h⟩
  rcases bind_eq_some.1 h with ⟨found, last, hfound, h⟩
  rcases bind_eq_some.1 h with ⟨-, _, -, h⟩
  obtain ⟨rfl, -⟩ := Prod.mk.inj (Option.some.inj h)
  exact (exists_someOf hfound).2.2

/-- Decimal digits of every script have a value. -/
theorem isReadable_iff : IsReadable f ↔
    ∀ digits, first? replicasCall f = some digits → digits.length ≤ numeralLimit := by
  rw [IsReadable]
  refine forall₂_congr fun digits hdigits => ?_
  obtain ⟨cs, rest, hcall⟩ := exists_of_first? hdigits
  obtain ⟨n, hn⟩ := exists_decimalNumeral?_iff.2 (isDecimal_of_replicasCall hcall)
  constructor
  · rintro ⟨m, hm⟩
    exact (readNumeral_eq_ok_iff.1 hm).2
  · intro hlength
    exact ⟨n, readNumeral_eq_ok_iff.2 ⟨hn, hlength⟩⟩

theorem exists_configure_iff {c : ResourceConfig} :
    (∃ config, Reading.configure f c = .ok config) ↔ IsReadable f := by
  refine ⟨?_, fun hf => Reading.exists_configure hf c⟩
  rintro ⟨config, hconfig⟩ digits hdigits
  rw [Reading.configure, hdigits] at hconfig
  rcases Except.bind_eq_ok_iff.1 hconfig with ⟨count, hcount, -⟩
  cases hread : readNumeral digits with
  | error e => simp [hread, Except.map] at hcount
  | ok n => exact ⟨n, rfl⟩

/-! ## Statements -/

namespace Reading

/-- The instance that a statement is about. -/
def position? (s : Reading) (statement : List Char) : Option Nat :=
  (owner statement).bind fun (name, _) => s.positions.lookup name

structure IsAnchored (s : Reading) (positions : List (String × Nat)) : Prop where
  positions_eq : s.positions = positions
  lt_length : ∀ e ∈ positions, e.2 < s.sketch.drafts.length

theorem IsAnchored.lt_of_lookup (h : s.IsAnchored positions) {name : String}
    (hname : positions.lookup name = some position) : position < s.sketch.drafts.length := by
  obtain ⟨before, after, heq, -⟩ := List.lookup_eq_some_iff.1 hname
  exact h.lt_length (name, position) (heq ▸ List.mem_append_right _ List.mem_cons_self)

theorem IsAnchored.addResource (h : s.IsAnchored s.positions) (call : ResourceCall) :
    (s.addResource r call).IsAnchored (s.addResource r call).positions := by
  rw [Reading.addResource]
  split
  · exact ⟨rfl, h.lt_length⟩
  · refine ⟨rfl, fun e he => ?_⟩
    change e.2 < (s.sketch.drafts ++ [_]).length
    rw [List.length_append, List.length_singleton]
    rcases List.mem_cons.1 he with rfl | he
    · exact Nat.lt_succ_self _
    · exact Nat.lt_succ_of_lt (h.lt_length e he)

theorem IsAnchored.addDatabase (h : s.IsAnchored s.positions) (call : DatabaseCall) :
    (s.addDatabase call).IsAnchored (s.addDatabase call).positions := by
  rw [Reading.addDatabase]
  split
  · exact h
  · rename_i position hposition
    refine ⟨rfl, fun e he => ?_⟩
    change e.2 < (s.sketch.drafts.modify position _).length
    rw [List.length_modify]
    rcases List.mem_cons.1 he with rfl | he
    · exact h.lt_of_lookup hposition
    · exact h.lt_length e he

/-- No statement declares anything. -/
theorem IsAnchored.apply (h : s.IsAnchored positions) (happly : s.apply f = .ok s') : s'.IsAnchored positions := by
  rcases apply_cases happly with rfl | ⟨position, draft, config, -, -, -, rfl⟩
  · exact h
  · refine ⟨h.positions_eq, fun e he => ?_⟩
    simp only [Sketch.modify, List.length_modify, Reading.addReferences, drafts_foldl_addLink]
    exact h.lt_length e he

/-- A statement about an instance can be read if its number of replicas can. -/
theorem IsAnchored.exists_apply_iff (h : s.IsAnchored positions) :
    (∃ s', s.apply f = .ok s') ↔ (s.position? f).isSome → IsReadable f := by
  cases hposition : s.position? f with
  | none =>
    rw [position?] at hposition
    have happly : s.apply f = .ok s := by rw [Reading.apply, hposition]
    exact ⟨fun _ hsome => absurd hsome (by decide), fun _ => ⟨s, happly⟩⟩
  | some position =>
    rcases Option.bind_eq_some_iff.1 hposition with ⟨⟨name, _⟩, -, hname⟩
    rw [h.positions_eq] at hname
    have hlt : position < s.sketch.drafts.length := h.lt_of_lookup hname
    have hdraft := List.getElem?_eq_getElem hlt
    rw [position?] at hposition
    constructor
    · rintro ⟨s', happly⟩ -
      rw [Reading.apply, hposition] at happly
      simp only [hdraft] at happly
      rcases Except.bind_eq_ok_iff.1 happly with ⟨config, hconfig, -⟩
      exact exists_configure_iff.1 ⟨config, hconfig⟩
    · intro hread
      rcases exists_configure (hread rfl) s.sketch.drafts[position].config with ⟨config, hconfig⟩
      exact ⟨_, apply_of_position hposition hdraft hconfig⟩

end Reading

/-- The variables of an AppHost and what they stand for, before any statement is read. -/
def declaredIn (r : Registry) (code : List Char) : Reading :=
  (all databaseDeclaration code).foldl Reading.addDatabase ((all declaration code).foldl (Reading.addResource r) .empty)

theorem isAnchored_declaredIn (r : Registry) (code : List Char) :
    (declaredIn r code).IsAnchored (declaredIn r code).positions := by
  have hempty : Reading.empty.IsAnchored Reading.empty.positions := ⟨rfl, fun e he => absurd he List.not_mem_nil⟩
  have hresources := List.foldlRecOn (motive := fun s : Reading => s.IsAnchored s.positions)
    (all declaration code) (Reading.addResource r) hempty fun s hs call _ => hs.addResource call
  exact List.foldlRecOn (motive := fun s : Reading => s.IsAnchored s.positions)
    (all databaseDeclaration code) Reading.addDatabase hresources fun s hs call _ => hs.addDatabase call

/-! ## Files -/

/-- No statement about an instance gives a number of replicas with too many digits. -/
def HasCounts (r : Registry) (text : String) : Prop :=
  let code := dropComments text.toList
  ∀ statement ∈ splitAll (· = ';') code, ((declaredIn r code).position? statement).isSome →
    ∀ digits, first? replicasCall statement = some digits → digits.length ≤ numeralLimit

theorem exists_ofAppHost_iff {text : String} : (∃ s, Sketch.ofAppHost r text = .ok s) ↔ HasCounts r text := by
  let code := dropComments text.toList
  have hstart := isAnchored_declaredIn r code
  -- no statement moves what stands at a position, so that each of them is asked the same as the first
  have hrun : (∃ s', (splitAll (· = ';') code).foldlM Reading.apply (declaredIn r code) = .ok s') ↔
      ∀ f ∈ splitAll (· = ';') code, ((declaredIn r code).position? f).isSome → IsReadable f :=
    Except.exists_foldlM_iff (P := fun s => s.IsAnchored (declaredIn r code).positions)
      (fun s f s' hs happly => hs.apply happly)
      (fun s f hs => by
        rw [hs.exists_apply_iff, Reading.position?, Reading.position?, hs.positions_eq])
      hstart
  have hcounts : HasCounts r text ↔
      ∀ f ∈ splitAll (· = ';') code, ((declaredIn r code).position? f).isSome → IsReadable f :=
    forall₂_congr fun f _ => imp_congr_right fun _ => isReadable_iff.symm
  rw [hcounts, ← hrun]
  constructor
  · rintro ⟨s, hs⟩
    rcases Except.bind_eq_ok_iff.1 hs with ⟨reading, hreading, -⟩
    exact ⟨reading, hreading⟩
  · rintro ⟨reading, hreading⟩
    exact ⟨_, Except.bind_eq_ok_iff.2 ⟨reading, hreading, rfl⟩⟩

/-! ## A number with too many digits -/

/-- A text of one line that is no comment. -/
theorem dropComments_of_not_mem {cs : List Char} (hline : '\n' ∉ cs) (h : isComment cs = false) :
    dropComments cs = cs := by
  have htidy := (tidy_of_not_mem_break hline []).dropCommentsFrom
  rw [List.append_nil] at htidy
  rw [dropComments, dropCommentsFrom_of_not_isComment h, htidy]
  exact List.append_nil cs

/-- A cache with as many nines for its number of replicas as a number of digits. Statements of topologies
have no such number, so that only its beginning is one. -/
def cacheStatement : Statement :=
  ⟨"cache", .generic "AddRedis" "cache", []⟩

def replicasChain (digits : Nat) : List Char :=
  ").WithReplicas(".toList ++ (List.replicate digits '9' ++ [')'])

def replicated (digits : Nat) : List Char :=
  start cacheStatement ++ replicasChain digits

theorem cacheStatement_isFramed : cacheStatement.IsFramed where
  name := ⟨by decide, by decide⟩
  opening := {
    receiver := ⟨by decide, by decide⟩
    method := ⟨"Redis", rfl, by decide, by decide⟩
    className := nofun
    name_ne_empty := by decide
    name := by decide
    more := OpeningCall.isFurther_nil }

theorem mem_of_mem_replicasChain {c : Char} {digits : Nat} (h : c ∈ replicasChain digits) :
    c ∈ ").WithReplicas(9".toList := by
  rcases List.mem_append.1 h with h | h
  · exact (by decide : ").WithReplicas(".toList ⊆ ").WithReplicas(9".toList) h
  · rcases List.mem_append.1 h with h | h
    · obtain rfl := List.eq_of_mem_replicate h
      decide
    · obtain rfl := List.mem_singleton.1 h
      decide

theorem not_mem_replicated {c : Char} (hopening : c ∉ start cacheStatement) (hchain : c ∉ ").WithReplicas(9".toList)
    (digits : Nat) : c ∉ replicated digits := by
  intro h
  rcases List.mem_append.1 h with h | h
  · exact hopening h
  · exact hchain (mem_of_mem_replicasChain h)

theorem position?_replicated (digits : Nat) :
    (declaredIn .standard (replicated digits)).position? (replicated digits) = some 0 := by
  have hopening : declaration (replicated digits) = some (⟨"cache", "AddRedis", "cache"⟩, replicasChain digits) :=
    declaration_start cacheStatement_isFramed rfl (replicasChain digits)
  have hbinding := binding_append cacheStatement_isFramed.name
    ("builder.AddRedis(\"cache\"".toList ++ replicasChain digits)
  have howner : owner (replicated digits) =
      some ("cache", ' ' :: ("builder.AddRedis(\"cache\"".toList ++ replicasChain digits)) := by
    have hstop : Stops isBlank (replicated digits) := stops_cons.2 (by decide)
    rw [owner, bind_apply (blanks_of_stops hstop)]
    exact either_of_left hbinding
  -- behind the declaration there is only the call with the digits, which declares nothing
  have hunmarked : ¬ "builder.Add".toList <:+: replicasChain digits := by
    intro hpart
    have hmem := mem_of_mem_replicasChain (hpart.subset (by decide : 'b' ∈ "builder.Add".toList))
    exact absurd hmem (by decide)
  have hresources : all declaration (replicated digits) = [⟨"cache", "AddRedis", "cache"⟩] := by
    rw [replicated] at hopening ⊢
    rw [all_of_hit (by decide) hopening, bears_declaration.all_eq_nil hunmarked]
  have hdatabases : all databaseDeclaration (replicated digits) = [] := by
    have hunmarked : ¬ ".AddDatabase".toList <:+: replicated digits := fun hpart =>
      not_mem_replicated (by decide) (by decide) digits (hpart.subset (by decide : 'D' ∈ ".AddDatabase".toList))
    exact bears_databaseDeclaration.all_eq_nil hunmarked
  rw [Reading.position?, declaredIn, hresources, hdatabases, howner]
  rfl

/-- One line and one statement, without comments. -/
theorem length_le_of_hasCounts_replicated {n : Nat} (h : HasCounts .standard (String.ofList (replicated n)))
    {digits : List Char} (hdigits : first? replicasCall (replicated n) = some digits) :
    digits.length ≤ numeralLimit := by
  have hline : '\n' ∉ replicated n := not_mem_replicated (by decide) (by decide) n
  have hwhole : ';' ∉ replicated n := not_mem_replicated (by decide) (by decide) n
  have hcode : isComment (replicated n) = false := rfl
  rw [HasCounts, String.toList_ofList, dropComments_of_not_mem hline hcode, splitAll_of_not_mem hwhole] at h
  exact h _ (List.mem_singleton_self _) (by rw [position?_replicated]; rfl) digits hdigits

end AppHost

open AppHost Text Scan

theorem exists_read_iff {f : Format} {r : Registry} {reserved : List String} {fileName text : String} :
    (∃ found, f.read r reserved fileName text = .ok found) ↔ ∃ s, f.sketch r fileName text = .ok s := by
  constructor
  · rintro ⟨found, hfound⟩
    rcases Format.read_eq_ok_iff.1 hfound with ⟨s, hs, -⟩
    exact ⟨s, hs⟩
  · rintro ⟨s, hs⟩
    exact ⟨_, Format.read_eq hs⟩

/-- Every compose file and every Dockerfile gives a topology, and so does an AppHost whose numbers of
replicas have no more digits than can be read. -/
theorem read_iff (f : Format) (r : Registry) (reserved : List String) (fileName text : String) :
    (∃ found, f.read r reserved fileName text = .ok found) ↔ (f = .appHost → HasCounts r text) := by
  rw [exists_read_iff]
  cases f with
  | appHost =>
    have happHost : (Format.appHost = .appHost → HasCounts r text) ↔ HasCounts r text := forall_prop_of_true rfl
    rw [happHost]
    exact exists_ofAppHost_iff
  | compose => exact iff_of_true ⟨_, rfl⟩ nofun
  | dockerfile => exact iff_of_true ⟨_, rfl⟩ nofun

/-- One digit more than can be read. -/
theorem replicated_not_read : ¬ ∃ found, Format.appHost.read .standard [] "AppHost.cs"
    (String.ofList (replicated (numeralLimit + 1))) = .ok found := by
  intro hread
  have hcounts := exists_ofAppHost_iff.1 (exists_read_iff.1 hread)
  have hcount : (first? replicasCall (replicated (numeralLimit + 1))).map List.length = some (numeralLimit + 1) := by
    decide +kernel
  rcases Option.map_eq_some_iff.1 hcount with ⟨digits, hdigits, hlength⟩
  have hle := length_le_of_hasCounts_replicated hcounts hdigits
  omega

end HostTopology
