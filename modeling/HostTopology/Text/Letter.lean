import HostTopology.Text.CaseTable
import HostTopology.Text.LowerTable
import HostTopology.Text.Points
import HostTopology.Text.Ranges
import HostTopology.Text.UpperTable

/-!
# Letter — upper and lower case

* `upperChar`, `upper` — upper case of any text, which can be longer than the text;
* `lowerChar`, `lower` — lower case of any text. The capital sigma is the one letter whose lower case
  depends on its place: at the end of a word it is `ς`;
* `capitalize` — an ASCII word with its first letter in upper and the others in lower case.
-/

namespace HostTopology
namespace Text

/-- A character's place in runs `(first, last, step, offset)`, moved by the offset. -/
def inRun? (runs : List (Nat × Nat × Nat × Int)) (n : Nat) : Option Nat :=
  runs.findSome? fun (first, last, step, offset) =>
    if first ≤ n ∧ n ≤ last ∧ (n - first) % step = 0 then some (Int.toNat (n + offset)) else none

/-! ## Upper case -/

def upperChar (c : Char) : List Char :=
  if c.toNat < 0x80 then
    [c.toUpper]
  else
    match upperExpansions.find? fun e => e.1 = c.toNat with
    | some (_, codes) => codes.map Char.ofNat
    | none => [((inRun? upperRuns c.toNat).map Char.ofNat).getD c]

def upper (cs : List Char) : List Char :=
  cs.flatMap upperChar

/-! ## Lower case -/

/-- The lower case of a character by itself. Only the capital I with a dot has one of two characters. -/
def lowerChar (c : Char) : List Char :=
  if c.toNat < 0x80 then [c.toLower]
  else if c = '\u0130' then ['i', '\u0307']
  else [((inRun? lowerRuns c.toNat).map Char.ofNat).getD c]

/-- A half of a character has no case. -/
def lowerCode (code : Nat) : List Nat :=
  if isHalf code then [code] else (lowerChar (Char.ofNat code)).map Char.toNat

/-- The next code point that matters for case is a letter. -/
def nextIsCased (codes : List Nat) : Bool :=
  (codes.dropWhile (inRanges caseIgnoredRanges)).head?.any (inRanges casedRanges)

/-- A sigma with a letter before it and none after it ends a word. `before` is what stands before the
text, last code point first. -/
def lowerAfter (before : List Nat) : List Nat → List Nat
  | [] => []
  | code :: codes =>
    let lowered :=
      if code = 'Σ'.toNat then
        [if nextIsCased before && !nextIsCased codes then 'ς'.toNat else 'σ'.toNat]
      else lowerCode code
    lowered ++ lowerAfter (code :: before) codes

def lower (cs : List Char) : List Char :=
  (lowerAfter [] (cs.map Char.toNat)).map Char.ofNat

def Points.lower : Points → Points
  | whole s => .whole (String.ofList (Text.lower s.toList))
  | halves codes => .ofCodes (lowerAfter [] codes)

def capitalize : List Char → List Char
  | [] => []
  | c :: cs => c.toUpper :: cs.map Char.toLower

end Text
end HostTopology
