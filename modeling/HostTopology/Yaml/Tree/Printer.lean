import HostTopology.Text.Quoted
import HostTopology.Yaml.Scalar
import HostTopology.Yaml.Token
import HostTopology.Yaml.Tree

/-!
# Printer — a tree as YAML text

`Tree.render` writes collections in block form, one entry a line, two columns further in for each
level; a list under a key is not indented. Lines longer than eighty columns are broken at spaces.

* `Spelling.of` — what the characters of a text allow: plain, single quotes or double quotes only;
* `Pen` — the text written so far and the place of the pen;
* `Pen.plain`, `Pen.single`, `Pen.double` — the three spellings of a text;
* `Pen.tree` — the layout of collections.
-/

namespace HostTopology
namespace Yaml

/-! ## What a text allows -/

/-- The spellings that read back as the text. Double quotes always do. -/
structure Spelling where
  plain : Bool
  single : Bool
  multiline : Bool
deriving DecidableEq, Repr

namespace Spelling

def isLineBreak (c : Char) : Bool :=
  c = '\n' || c = '\x85' || c = '\u2028' || c = '\u2029'

/-- Characters that stand for themselves only with an escape. -/
def isSpecial (c : Char) : Bool :=
  !(c = '\n' || (0x20 ≤ c.toNat && c.toNat ≤ 0x7E) || c = '\x85' ||
    (0xA0 ≤ c.toNat && c.toNat ≤ 0xFFFD && c != '\uFEFF') || (0x10000 ≤ c.toNat && c.toNat < 0x10FFFF))

/-- An indicator inside a text: a colon before a gap, or a number sign after one. -/
def hasInnerIndicator : Char → List Char → Bool
  | _, [] => false
  | previous, c :: rest =>
    (c = ':' && isGapOrEnd (rest.headD endMark)) || (c = '#' && isGapOrEnd previous) ||
      hasInnerIndicator c rest

def hasIndicator : List Char → Bool
  | [] => false
  | first :: rest =>
    "#,[]\x7b\x7d&*!|>'\"%@\x60".toList.contains first ||
      ((first = '?' || first = ':' || first = '-') && isGapOrEnd (rest.headD endMark)) ||
      (first :: rest).take 3 = ['-', '-', '-'] || (first :: rest).take 3 = ['.', '.', '.'] ||
      hasInnerIndicator first rest

/-- Two neighbours of which the first satisfies `p` and the second `q`. -/
def hasPair (p q : Char → Bool) : List Char → Bool
  | a :: b :: rest => (p a && q b) || hasPair p q (b :: rest)
  | _ => false

def of (cs : List Char) : Spelling :=
  let isSpace (c : Char) : Bool := c = ' '
  let isEdge (c : Char) : Bool := isSpace c || isLineBreak c
  let breakSpace := hasPair isLineBreak isSpace cs
  let spaceBreak := hasPair isSpace isLineBreak cs
  let special := cs.any isSpecial
  let edges := cs.head?.any isEdge || cs.getLast?.any isEdge
  let multiline := cs.any isLineBreak
  ⟨!(edges || breakSpace || spaceBreak || special || multiline || hasIndicator cs),
    !(breakSpace || spaceBreak || special), multiline⟩

end Spelling

/-! ## The pen -/

/-- The text written so far, last character first. `afterGap` tells that the pen stands after white
space, `atIndent` that only indentation and indicators precede it on the line. -/
structure Pen where
  written : List Char
  column : Nat
  afterGap : Bool
  atIndent : Bool

namespace Pen

/-- Lines are broken at the first space beyond this column. -/
def width : Nat := 80

def start : Pen :=
  ⟨[], 0, true, true⟩

def put (p : Pen) (cs : List Char) : Pen :=
  { p with written := cs.reverse ++ p.written, column := p.column + cs.length }

def breakLine (p : Pen) (c : Char) : Pen :=
  ⟨c :: p.written, 0, true, true⟩

/-- Goes to the indentation, on a new line unless the pen is before it. -/
def indentTo (p : Pen) (indent : Nat) : Pen :=
  let p := if !p.atIndent || indent < p.column || (p.column = indent && !p.afterGap)
    then p.breakLine '\n' else p
  if p.column < indent then { p.put (List.replicate (indent - p.column) ' ') with afterGap := true } else p

/-- An indicator, after a space where it needs one. -/
def mark (p : Pen) (cs : List Char) (spaced keepsIndent : Bool) : Pen :=
  let p := p.put (if p.afterGap || !spaced then cs else ' ' :: cs)
  { p with afterGap := false, atIndent := p.atIndent && keepsIndent }

/-- Marks the pen as being inside a text. -/
def inText (p : Pen) : Pen :=
  { p with afterGap := false, atIndent := false }

/-! ### Spellings of a text -/

/-- A run of equal class at the start of a text. -/
def splitRun (p : Char → Bool) (cs : List Char) : List Char × List Char :=
  (cs.takeWhile p, cs.dropWhile p)

/-- Words and runs of spaces in turn. A single space beyond the width becomes a line break. -/
def plainRuns (indent : Nat) (split : Bool) : Nat → List Char → Pen → Pen
  | 0, _, p => p
  | n + 1, cs, p =>
    if cs = [] then p
    else
      let (spaces, rest) := splitRun (· = ' ') cs
      if spaces = [] then
        let (word, rest) := splitRun (· ≠ ' ') cs
        plainRuns indent split n rest (p.put word)
      else if spaces.length = 1 ∧ width < p.column ∧ split then
        plainRuns indent split n rest (p.indentTo indent).inText
      else
        plainRuns indent split n rest (p.put spaces)

def plain (indent : Nat) (split : Bool) (cs : List Char) (p : Pen) : Pen :=
  if cs = [] then p
  else
    let p := if p.afterGap then p else p.put [' ']
    plainRuns indent split cs.length cs p.inText

/-- A line break in the text takes one more, since one alone would be read as a space. -/
def singleRuns (indent : Nat) (split : Bool) : Nat → Bool → List Char → Pen → Pen
  | 0, _, _, p => p
  | n + 1, first, cs, p =>
    match cs with
    | [] => p
    | '\'' :: rest => singleRuns indent split n false rest (p.put ['\'', '\''])
    | c :: _ =>
      if c = ' ' then
        let (spaces, rest) := splitRun (· = ' ') cs
        if spaces.length = 1 ∧ width < p.column ∧ split ∧ ¬ first ∧ rest ≠ [] then
          singleRuns indent split n false rest (p.indentTo indent)
        else
          singleRuns indent split n false rest (p.put spaces)
      else if Spelling.isLineBreak c then
        let (breaks, rest) := splitRun Spelling.isLineBreak cs
        let p := if c = '\n' then p.breakLine '\n' else p
        singleRuns indent split n false rest ((breaks.foldl breakLine p).indentTo indent)
      else
        let (word, rest) := splitRun (fun c => !(c = ' ' || c = '\'' || Spelling.isLineBreak c)) cs
        singleRuns indent split n false rest (p.put word)

def single (indent : Nat) (split : Bool) (cs : List Char) (p : Pen) : Pen :=
  (singleRuns indent split cs.length true cs (p.mark ['\''] true false)).mark ['\''] false false

def shortEscape? (c : Char) : Option Char :=
  [('\x00', '0'), ('\x07', 'a'), ('\x08', 'b'), ('\t', 't'), ('\n', 'n'), ('\x0b', 'v'), ('\x0c', 'f'),
    ('\r', 'r'), ('\x1b', 'e'), ('"', '"'), ('\\', '\\'), ('\x85', 'N'), ('\u2028', 'L'),
    ('\u2029', 'P')].lookup c

def needsEscape (c : Char) : Bool :=
  c = '"' || c = '\\' || c = '\u2028' || c = '\u2029' || c = '\uFEFF' ||
    !((0x20 ≤ c.toNat && c.toNat ≤ 0x7E) || (0xA0 ≤ c.toNat && c.toNat ≤ 0xFFFD))

def escape (c : Char) : List Char :=
  let code (letter : Char) (width : Nat) : List Char :=
    '\\' :: letter :: (Text.hex width c.toNat).map Char.toUpper
  match shortEscape? c with
  | some letter => ['\\', letter]
  | none =>
    if c.toNat ≤ 0xFF then code 'x' 2 else if c.toNat ≤ 0xFFFF then code 'u' 4 else code 'U' 8

/-- Characters inside double quotes. `pending` is the run, last character first, that is not yet
written; a line may be broken before a space or after an escape, but not at either end. -/
def doubleRuns (indent : Nat) (split : Bool) : List Char → Bool → List Char → Pen → Pen
  | [], _, pending, p => p.put pending.reverse
  | c :: rest, first, pending, p =>
    let escaped := needsEscape c
    let p := if escaped then (p.put pending.reverse).put (escape c) else p
    let pending := if escaped then [] else pending
    let mayBreak := !first && rest ≠ [] && (c = ' ' || escaped || pending = [])
    let reach := if escaped then p.column - 1 else p.column + pending.length
    if mayBreak && width < reach && split then
      let p := ((p.put (pending.reverse ++ ['\\'])).indentTo indent).inText
      let next := if escaped then rest.head? else some c
      let p := if next = some ' ' then p.put ['\\'] else p
      doubleRuns indent split rest false (if escaped then [] else [c]) p
    else
      doubleRuns indent split rest false (if escaped then [] else c :: pending) p

def double (indent : Nat) (split : Bool) (cs : List Char) (p : Pen) : Pen :=
  (doubleRuns indent split cs true [] (p.mark ['"'] true false)).mark ['"'] false false

/-- A text in the first spelling that it allows. A text that would be read as something else when
plain is quoted; a simple key stays on one line. -/
def text (indent : Nat) (simpleKey : Bool) (s : String) (p : Pen) : Pen :=
  let cs := s.toList
  let spelling := Spelling.of cs
  let split := !simpleKey
  if spelling.plain && Scalar.kind s = .text then p.plain indent split cs
  else if spelling.single && !(simpleKey && spelling.multiline) then p.single indent split cs
  else p.double indent split cs

/-! ### Collections -/

/-- A key that fits on its line, tag included, needs no mark of its own. -/
def isSimpleKey (s : String) : Bool :=
  !s.isEmpty && s.length + 5 < 128 && !(Spelling.of s.toList).multiline

mutual

/-- A tree. `indent` is the indentation of the collection around it; `afterKey` tells that it
follows a key on the same line. -/
def tree (indent : Option Nat) (afterKey : Bool) (t : Tree) (p : Pen) : Pen :=
  let inner := (indent.map (· + 2)).getD 0
  let scalarIndent := (indent.map (· + 2)).getD 2
  match t with
  | .text s => p.text scalarIndent false s
  | .int n => p.plain scalarIndent true (toString n).toList
  | .bool b => p.plain scalarIndent true (if b then "true" else "false").toList
  | .list [] => (p.mark ['['] true false).put [']']
  | .mapping [] => (p.mark ['\x7b'] true false).put ['\x7d']
  | .list items => listItems (if afterKey && !p.atIndent then indent.getD 0 else inner) items p
  | .mapping entries => mapEntries inner entries p

def listItems (indent : Nat) : List Tree → Pen → Pen
  | [], p => p
  | t :: ts, p =>
    let p := (p.indentTo indent).mark ['-'] true true
    listItems indent ts (tree (some indent) false t p)

def mapEntries (indent : Nat) : List (String × Tree) → Pen → Pen
  | [], p => p
  | (k, t) :: es, p =>
    let p := p.indentTo indent
    let p := if isSimpleKey k then
        (p.text (indent + 2) true k).mark [':'] false false
      else
        (((p.mark ['?'] true true).text (indent + 2) false k).indentTo indent).mark [':'] true true
    mapEntries indent es (tree (some indent) true t p)

end

end Pen

/-- The text of a tree, with a line end at its end. -/
def Tree.render (t : Tree) : String :=
  let p := (Pen.tree none false t .start).indentTo 0
  String.ofList p.written.reverse

end Yaml
end HostTopology
