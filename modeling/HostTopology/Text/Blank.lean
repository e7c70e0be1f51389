import HostTopology.Text.Ranges

/-!
# Blank — white space, lines and pieces of a text

Texts are taken apart as lists of characters. This file defines

* `isSpace` — white space;
* `isBlank` — white space and the four separators U+001C to U+001F;
* `trim`, `trimLeft`, `trimRight` — removal of blank characters at the ends;
* `lines` — the lines of a text, whatever ends them;
* `splitAll`, `fields` — the pieces between separators, and between runs of white space;
* `cut`, `cutLast` — the two sides of the first and of the last separator.
-/

namespace HostTopology
namespace Text

/-! ## White space -/

def spaceRanges : List (Nat × Nat) := [
  (0x9, 0xD), (0x20, 0x20), (0x85, 0x85), (0xA0, 0xA0), (0x1680, 0x1680), (0x2000, 0x200A),
  (0x2028, 0x2029), (0x202F, 0x202F), (0x205F, 0x205F), (0x3000, 0x3000)]

def isSpace (c : Char) : Bool :=
  inRanges spaceRanges c.toNat

def isBlank (c : Char) : Bool :=
  isSpace c || (0x1C ≤ c.toNat && c.toNat ≤ 0x1F)

def trimLeft (cs : List Char) : List Char :=
  cs.dropWhile isBlank

def trimRight (cs : List Char) : List Char :=
  (cs.reverse.dropWhile isBlank).reverse

def trim (cs : List Char) : List Char :=
  trimRight (trimLeft cs)

/-- Removal of the characters of a set at both ends. -/
def trimBy (p : Char → Bool) (cs : List Char) : List Char :=
  ((cs.dropWhile p).reverse.dropWhile p).reverse

/-! ## Lines -/

/-- The characters that end a line. A carriage return and the line feed after it end one line. -/
def isLineEnd (c : Char) : Bool :=
  inRanges [(0xA, 0xD), (0x1C, 0x1E), (0x85, 0x85), (0x2028, 0x2029)] c.toNat

/-- Puts a character at the start of the first line. -/
def consFirst (c : Char) : List (List Char) → List (List Char)
  | [] => [[c]]
  | l :: ls => (c :: l) :: ls

/-- The lines of a text without their ends. Nothing follows the last line end. -/
def lines : List Char → List (List Char)
  | [] => []
  | '\r' :: '\n' :: cs => [] :: lines cs
  | c :: cs => if isLineEnd c then [] :: lines cs else consFirst c (lines cs)

/-! ## Pieces -/

/-- The pieces between the separators, empty pieces included. -/
def splitAll (isSep : Char → Bool) : List Char → List (List Char)
  | [] => [[]]
  | c :: cs => if isSep c then [] :: splitAll isSep cs else consFirst c (splitAll isSep cs)

/-- The pieces between runs of white space. -/
def fields (cs : List Char) : List (List Char) :=
  (splitAll isBlank cs).filter (· ≠ [])

/-- The text before the first separator, and the text after it if there is one. -/
def cut (sep : Char) (cs : List Char) : List Char × Option (List Char) :=
  match cs.dropWhile (· ≠ sep) with
  | [] => (cs, none)
  | _ :: after => (cs.takeWhile (· ≠ sep), some after)

/-- The text before the last separator, if there is one, and the text after it. -/
def cutLast (sep : Char) (cs : List Char) : Option (List Char) × List Char :=
  match cut sep cs.reverse with
  | (_, none) => (none, cs)
  | (after, some before) => (some before.reverse, after.reverse)

/-- A piece occurs somewhere in a text. -/
def contains (piece : List Char) : List Char → Bool
  | [] => piece.isEmpty
  | c :: cs => piece.isPrefixOf (c :: cs) || contains piece cs

/-- A text without one line feed at its end. A pattern that ends with a text does not look at it. -/
def dropFinalBreak (cs : List Char) : List Char :=
  if cs.getLast? = some '\n' then cs.dropLast else cs

/-- The texts with a separator between neighbours. -/
def join (sep : String) (parts : List String) : String :=
  sep.intercalate parts

/-! ## Small facts -/

theorem isBlank_space : isBlank ' ' = true := by decide

theorem splitAll_ne_nil (isSep : Char → Bool) (cs : List Char) : splitAll isSep cs ≠ [] := by
  cases cs with
  | nil => simp [splitAll]
  | cons c cs =>
    simp only [splitAll]
    split
    · simp
    · cases splitAll isSep cs <;> simp [consFirst]

end Text
end HostTopology
