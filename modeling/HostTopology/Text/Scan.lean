import HostTopology.Text.Blank
import HostTopology.Text.Word

/-!
# Scan — recognising pieces of a text

A `Scan` reads a piece at the start of a text and leaves the rest, or it does not recognise one.

* `literal`, `run`, `word`, `blanks`, `quoted` — the pieces;
* `either`, `perhaps` — choice, where what comes first is preferred;
* `Scan.all` — the pieces found in a text from left to right; they do not overlap.
-/

namespace HostTopology
namespace Text

def Scan (α : Type) : Type :=
  List Char → Option (α × List Char)

namespace Scan

def yield {α : Type} (a : α) : Scan α := fun cs => some (a, cs)

def andThen {α β : Type} (p : Scan α) (next : α → Scan β) : Scan β := fun cs =>
  match p cs with
  | some (a, rest) => next a rest
  | none => none

instance : Monad Scan where
  pure := yield
  bind := andThen

/-! ## Pieces -/

def literal (s : String) : Scan Unit := fun cs =>
  if s.toList.isPrefixOf cs then some ((), cs.drop s.toList.length) else none

/-- The longest run of characters of a set. It can be empty. -/
def run (p : Char → Bool) : Scan (List Char) := fun cs =>
  some (cs.takeWhile p, cs.dropWhile p)

/-- The longest run, which is not empty. -/
def someOf (p : Char → Bool) : Scan (List Char) := fun cs =>
  match cs.takeWhile p with
  | [] => none
  | found => some (found, cs.dropWhile p)

def blanks : Scan Unit := do
  let _ ← run isBlank

def someBlanks : Scan Unit := do
  let _ ← someOf isBlank

def word : Scan String := do
  return String.ofList (← someOf isWord)

/-- Characters between double quotes. -/
def quoted : Scan String := do
  literal "\""
  let found ← run (· ≠ '"')
  literal "\""
  return String.ofList found

/-- Characters between double quotes, at least one. -/
def quotedSome : Scan String := do
  literal "\""
  let found ← someOf (· ≠ '"')
  literal "\""
  return String.ofList found

/-! ## Choice -/

def either {α : Type} (p q : Scan α) : Scan α := fun cs =>
  match p cs with
  | some found => some found
  | none => q cs

/-- Passes over a piece if there is one. -/
def perhaps (p : Scan Unit) : Scan Unit :=
  either p (yield ())

/-! ## Search -/

/-- The pieces after the first `skip` characters, which belong to an earlier piece. -/
def allFrom {α : Type} (p : Scan α) : Nat → List Char → List α
  | _, [] => []
  | skip + 1, _ :: cs => allFrom p skip cs
  | 0, c :: cs =>
    match p (c :: cs) with
    | some (a, rest) => a :: allFrom p (cs.length - rest.length) cs
    | none => allFrom p 0 cs

def all {α : Type} (p : Scan α) (cs : List Char) : List α :=
  allFrom p 0 cs

/-- The first piece in a text. -/
def first? {α : Type} (p : Scan α) : List Char → Option α
  | [] => none
  | c :: cs =>
    match p (c :: cs) with
    | some (a, _) => some a
    | none => first? p cs

end Scan
end Text
end HostTopology
