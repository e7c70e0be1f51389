/-!
# Allocator — new ids, one after the other

What is imported is numbered. An allocator counts up and passes over the ids that are taken.

* `IdAllocator.turn` — one turn of its loop: an id is handed out or passed over;
* `IdAllocator.ahead` — how many taken ids may still get in the way. A turn that hands out nothing leaves one of
  them behind;
* `IdAllocator.allocate` — turns up to the next id;
* `freshIds` — the ids that several calls hand out, listed at once.
-/

namespace HostTopology

def firstImportedId : Nat := 1000

def importedId (n : Nat) : String :=
  "imported_" ++ toString n

theorem repr_inj {m n : Nat} (h : m.repr = n.repr) : m = n := by
  have hdigits : Nat.toDigits 10 m = Nat.toDigits 10 n := by
    rw [← Nat.toList_repr, ← Nat.toList_repr, h]
  have hvalue := congrArg (fun cs => Nat.ofDigitChars 10 cs 0) hdigits
  simpa only [Nat.ofDigitChars_ten_toDigits] using hvalue

theorem importedId_inj {m n : Nat} (h : importedId m = importedId n) : m = n := by
  have htext := congrArg String.toList h
  rw [importedId, importedId, String.toList_append, String.toList_append] at htext
  exact repr_inj (String.toList_inj.1 (List.append_cancel_left htext))

/-- The ids that are taken, and the number that comes next. -/
structure IdAllocator where
  reserved : List String
  next : Nat
deriving DecidableEq, Repr

namespace IdAllocator

variable {a : IdAllocator} {id : String}

def start (reserved : List String) : IdAllocator :=
  ⟨reserved, firstImportedId⟩

/-- The allocator has come past a number. -/
def pass (a : IdAllocator) : IdAllocator :=
  ⟨a.reserved, a.next + 1⟩

/-- An id is handed out at most once. -/
def give (a : IdAllocator) : IdAllocator :=
  ⟨importedId a.next :: a.reserved, a.next + 1⟩

/-- One turn of the loop, with the id that is handed out and ends it. -/
def turn (a : IdAllocator) : Option String × IdAllocator :=
  if importedId a.next ∈ a.reserved then (none, a.pass) else (some (importedId a.next), a.give)

/-! ## How many turns there are -/

/-- An id that is of no number below the next one. -/
def isAhead (next : Nat) (id : String) : Bool :=
  (List.range next).all fun n => importedId n ≠ id

def ahead (a : IdAllocator) : Nat :=
  a.reserved.countP (isAhead a.next)

theorem isAhead_iff {next : Nat} : isAhead next id = true ↔ ∀ n < next, importedId n ≠ id := by
  simp [isAhead]

theorem isAhead_next (next : Nat) : isAhead next (importedId next) = true :=
  isAhead_iff.2 fun _ hlt heq => Nat.ne_of_lt hlt (importedId_inj heq)

theorem not_isAhead_next (next : Nat) : ¬ isAhead (next + 1) (importedId next) = true :=
  fun h => isAhead_iff.1 h next (Nat.lt_succ_self next) rfl

theorem countP_isAhead_le (next : Nat) (ids : List String) :
    ids.countP (isAhead (next + 1)) ≤ ids.countP (isAhead next) := by
  refine List.countP_mono_left fun id _ hahead => ?_
  exact isAhead_iff.2 fun n hlt => isAhead_iff.1 hahead n (Nat.lt_succ_of_lt hlt)

/-- A reserved id that is passed over is left behind. -/
theorem ahead_pass_lt (h : importedId a.next ∈ a.reserved) : a.pass.ahead < a.ahead := by
  obtain ⟨before, after, hsplit⟩ := List.append_of_mem h
  have hbefore := countP_isAhead_le a.next before
  have hafter := countP_isAhead_le a.next after
  simp only [ahead, pass, hsplit, List.countP_append, List.countP_cons, if_pos (isAhead_next a.next),
    if_neg (not_isAhead_next a.next)]
  omega

theorem turn_eq_none_iff {b : IdAllocator} : a.turn = (none, b) ↔ importedId a.next ∈ a.reserved ∧ a.pass = b := by
  by_cases h : importedId a.next ∈ a.reserved <;> simp [turn, h]

theorem turn_eq_some_iff {b : IdAllocator} : a.turn = (some id, b) ↔
    importedId a.next ∉ a.reserved ∧ importedId a.next = id ∧ a.give = b := by
  by_cases h : importedId a.next ∈ a.reserved <;> simp [turn, h]

/-! ## The next id -/

/-- Takes turns until one of them hands out an id. -/
def allocate (a : IdAllocator) : String × IdAllocator :=
  match _h : a.turn with
  | (some id, b) => (id, b)
  | (none, b) => b.allocate
termination_by a.ahead
decreasing_by
  obtain ⟨hmem, rfl⟩ := turn_eq_none_iff.1 _h
  exact ahead_pass_lt hmem

end IdAllocator

/-! ## Several ids -/

/-- The first ids in order of number that are not reserved. Each reserved id rules out one number,
so there are enough among as many numbers as there are ids wanted and reserved. -/
def freshIds (reserved : List String) (count : Nat) : List String :=
  let candidates := (List.range (count + reserved.length)).map fun n => importedId (firstImportedId + n)
  (candidates.filter fun id => !reserved.contains id).take count

end HostTopology
