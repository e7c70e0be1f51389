import HostTopology.Yaml.Token

/-!
# Scalar — the four spellings of a scalar

* `Cursor.blockScalar` — a literal or folded block, with its header of chomping and indentation;
* `Cursor.quotedScalar` — text between single or double quotes, over several lines if need be;
* `Cursor.plainScalar` — text without quotes, which also tells whether a simple key may follow.

The loops run on a fuel that starts at the length of the text; every round consumes a character.
-/

namespace HostTopology
namespace Yaml
namespace Cursor

/-- Spaces and a comment up to the end of the line. -/
def ignoredLine (c : Cursor) : Except Fault Cursor :=
  let c := c.skipSpaces
  let c := if c.peek = '#' then c.skipWhile (!isBreakOrEnd ·) else c
  if isBreakOrEnd c.peek then
    .ok ((c.lineBreak?.map Prod.snd).getD c)
  else
    .error .malformed

/-! ## Blocks -/

/-- What becomes of the line breaks at the end of a block. -/
inductive Chomping where
  | clip
  | strip
  | keep
deriving DecidableEq

def chomping? (ch : Char) : Option Chomping :=
  if ch = '+' then some .keep else if ch = '-' then some .strip else none

/-- The chomping and the indentation in the header, in either order. -/
def blockHeader (c : Cursor) : Except Fault (Chomping × Option Nat × Cursor) := do
  let increment (c : Cursor) : Except Fault (Option Nat × Cursor) :=
    if c.peek.isDigit then
      if c.peek = '0' then .error .malformed else .ok (some (c.peek.toNat - '0'.toNat), c.step)
    else
      .ok (none, c)
  let (chomping, width, c) ← match chomping? c.peek with
    | some chomping => do
      let (width, c) ← increment c.step
      pure (chomping, width, c)
    | none => do
      let (width, c) ← increment c
      match width, chomping? c.peek with
      | some _, some chomping => pure (chomping, width, c.step)
      | _, _ => pure (.clip, width, c)
  if isSpaceOrEnd c.peek then .ok (chomping, width, c) else .error .malformed

/-- Blank lines before the first line of a block: the breaks and the widest indentation. -/
def blockIndentation : Nat → Cursor → Nat → List Char × Nat × Cursor
  | 0, c, widest => ([], widest, c)
  | n + 1, c, widest =>
    match c.lineBreak? with
    | some (b, c) =>
      let (breaks, widest, c) := blockIndentation n c widest
      (b :: breaks, widest, c)
    | none =>
      if c.peek = ' ' then blockIndentation n c.step (max widest c.step.column) else ([], widest, c)

def skipIndent (indent : Nat) : Nat → Cursor → Cursor
  | 0, c => c
  | n + 1, c => if c.column < indent ∧ c.peek = ' ' then skipIndent indent n c.step else c

/-- Blank lines inside a block, and the indentation of the line after them. -/
def blockBreaks (indent : Nat) : Nat → Cursor → List Char × Cursor
  | 0, c => ([], c)
  | n + 1, c =>
    let c := skipIndent indent indent c
    match c.lineBreak? with
    | some (b, c) =>
      let (breaks, c) := blockBreaks indent n c
      (b :: breaks, c)
    | none => ([], c)

/-- The lines of a block. A folded break between two lines that start with no space is a space, or
nothing before blank lines. -/
def blockLines (folded : Bool) (chomping : Chomping) (indent : Nat) : Nat → Cursor → List Char × Cursor
  | 0, c => ([], c)
  | n + 1, c =>
    let startsText := c.peek ≠ ' ' ∧ c.peek ≠ '\t'
    let (line, c) := c.takeWhile (!isBreakOrEnd ·)
    let (lineEnd, c) := match c.lineBreak? with
      | some (b, c) => ([b], c)
      | none => ([], c)
    let (breaks, c) := blockBreaks indent (c.size + 1) c
    if c.column = indent ∧ ¬ c.atEnd then
      let folds := folded ∧ lineEnd = ['\n'] ∧ startsText ∧ c.peek ≠ ' ' ∧ c.peek ≠ '\t'
      let glue := if folds then (if breaks = [] then [' '] else []) else lineEnd
      let (more, c) := blockLines folded chomping indent n c
      (line ++ glue ++ breaks ++ more, c)
    else
      match chomping with
      | .clip => (line ++ lineEnd, c)
      | .strip => (line, c)
      | .keep => (line ++ lineEnd ++ breaks, c)

/-- A block scalar; `outer` is the indentation of the collection around it. -/
def blockScalar (outer : Int) (c : Cursor) : Except Fault (String × Cursor) := do
  let folded := c.peek = '>'
  let (chomping, increment, c) ← c.step.blockHeader
  let c ← c.ignoredLine
  let least := (max (outer + 1) 1).toNat
  let (breaks, indent, c) := match increment with
    | some k =>
      let indent := least + k - 1
      let (breaks, c) := blockBreaks indent (c.size + 1) c
      (breaks, indent, c)
    | none =>
      let (breaks, widest, c) := blockIndentation c.size c 0
      (breaks, max least widest, c)
  if c.column = indent ∧ ¬ c.atEnd then
    let (content, c) := blockLines folded chomping indent (c.size + 1) c
    .ok (String.ofList (breaks ++ content), c)
  else
    .ok (String.ofList (if chomping = .keep then breaks else []), c)

/-! ## Quotes -/

/-- Escapes of one character. -/
def shortEscape? (ch : Char) : Option Char :=
  [('0', '\x00'), ('a', '\x07'), ('b', '\x08'), ('t', '\t'), ('\t', '\t'), ('n', '\n'), ('v', '\x0b'),
    ('f', '\x0c'), ('r', '\r'), ('e', '\x1b'), (' ', ' '), ('"', '"'), ('\\', '\\'), ('/', '/'),
    ('N', '\x85'), ('_', '\u00a0'), ('L', '\u2028'), ('P', '\u2029')].lookup ch

/-- Escapes by code point: the number of hexadecimal digits. -/
def codeEscape? (ch : Char) : Option Nat :=
  [('x', 2), ('u', 4), ('U', 8)].lookup ch

/-- Breaks between the lines of a quoted text. No document may start or end inside. -/
def quotedBreaks : Nat → Cursor → Except Fault (List Char × Cursor)
  | 0, c => .ok ([], c)
  | n + 1, c =>
    if c.atDocumentMarker then .error .malformed
    else
      let c := c.skipWhile fun ch => ch = ' ' || ch = '\t'
      match c.lineBreak? with
      | some (b, c) => do
        let (breaks, c) ← quotedBreaks n c
        .ok (b :: breaks, c)
      | none => .ok ([], c)

/-- White space inside quotes. A single line break is a space. -/
def quotedSpaces (c : Cursor) : Except Fault (List Char × Cursor) := do
  let (spaces, c) := c.takeWhile fun ch => ch = ' ' || ch = '\t'
  match c.lineBreak? with
  | some (b, c) =>
    let (breaks, c) ← quotedBreaks (c.size + 1) c
    .ok ((if b ≠ '\n' then [b] else if breaks = [] then [' '] else []) ++ breaks, c)
  | none => if c.atEnd then .error .malformed else .ok (spaces, c)

def isQuotedText (ch : Char) : Bool :=
  !(ch = '\'' || ch = '"' || ch = '\\' || isGapOrEnd ch)

/-- The character that an escape begins with, and those after it. -/
def escape (c : Cursor) : Except Fault (List Nat × Cursor) :=
  match shortEscape? c.peek, codeEscape? c.peek with
  | some meant, _ => .ok ([meant.toNat], c.step)
  | none, some width =>
    let digits := c.step.rest.take width
    if digits.length = width ∧ digits.all isHexDigit then
      let code := hexNumber digits
      if code < 0x110000 then .ok ([code], c.step.advance width) else .error (.codePoint code)
    else .error .malformed
  | none, none =>
    match c.lineBreak? with
    | some (_, c) => do
      let (breaks, c) ← quotedBreaks (c.size + 1) c
      .ok (breaks.map Char.toNat, c)
    | none => .error .malformed

/-- A piece of quoted text, as code points; none at the closing quote. -/
def quotedPiece (double : Bool) (c : Cursor) : Except Fault (Option (List Nat × Cursor)) :=
  let ch := c.peek
  let next := c.step
  if isQuotedText ch then
    let (run, c) := c.takeWhile isQuotedText
    .ok (some (run.map Char.toNat, c))
  else if !double && ch = '\'' && next.peek = '\'' then .ok (some ([ch.toNat], next.step))
  else if ch = (if double then '"' else '\'') then .ok none
  else if ch = '\'' || ch = '"' || (!double && ch = '\\') then .ok (some ([ch.toNat], next))
  else if ch = '\\' then next.escape.map some
  else c.quotedSpaces.map fun (spaces, c) => some (spaces.map Char.toNat, c)

/-- The text up to the closing quote. -/
def quotedText (double : Bool) : Nat → Cursor → Except Fault (List Nat × Cursor)
  | 0, _ => .error .malformed
  | n + 1, c => do
    match ← c.quotedPiece double with
    | some (codes, c) =>
      let (more, c) ← quotedText double n c
      .ok (codes ++ more, c)
    | none => .ok ([], c.step)

/-- A text in quotes. Only escapes in double quotes can make halves of characters. -/
def quotedScalar (c : Cursor) : Except Fault (Text.Points × Cursor) := do
  let (codes, after) ← quotedText (c.peek = '"') (c.size + 1) c.step
  .ok (.ofCodes codes, after)

/-! ## Plain text -/

/-- The characters of a plain scalar on one line, with the character that follows each. -/
def plainRun (inFlow : Bool) : List Char → List Char
  | [] => []
  | ch :: rest =>
    let next := rest.headD endMark
    let endsKey := ch = ':' && (isGapOrEnd next || (inFlow && ",[]\x7b\x7d".toList.contains next))
    if isGapOrEnd ch || endsKey || (inFlow && ",?[]\x7b\x7d".toList.contains ch) then []
    else ch :: plainRun inFlow rest

/-- Blank lines between the lines of a plain scalar; none if a document starts or ends there. -/
def plainBreaks : Nat → Cursor → Option (List Char) × Cursor
  | 0, c => (some [], c)
  | n + 1, c =>
    match c.lineBreak? with
    | some (b, c) =>
      if c.atDocumentMarker then (none, c)
      else
        let (breaks?, c) := plainBreaks n c
        (breaks?.map (b :: ·), c)
    | none => if c.peek = ' ' then plainBreaks n c.step else (some [], c)

/-- The gap after a run of plain text, folded; whether a line ended in it; the place after it. -/
def plainGap (c : Cursor) : List Char × Bool × Cursor :=
  let (spaces, c) := c.takeWhile (· = ' ')
  match c.lineBreak? with
  | some (b, c) =>
    if c.atDocumentMarker then ([], true, c)
    else
      match plainBreaks c.size c with
      | (none, c) => ([], true, c)
      | (some breaks, c) =>
        ((if b ≠ '\n' then [b] else if breaks = [] then [' '] else []) ++ breaks, true, c)
  | none => (spaces, false, c)

/-- The rest of a plain scalar after a gap. The gap belongs to it only if text follows. -/
def plainText (inFlow : Bool) (indent : Int) :
    Nat → Cursor → List Char → Bool → List Char × Bool × Cursor
  | 0, c, _, newLine => ([], newLine, c)
  | n + 1, c, gap, newLine =>
    let run := plainRun inFlow c.rest
    if c.peek = '#' ∨ run = [] then ([], newLine, c)
    else
      let (next, newLine, c) := (c.advance run.length).plainGap
      if next = [] ∨ c.peek = '#' ∨ (¬ inFlow ∧ (c.column : Int) < indent) then
        (gap ++ run, newLine, c)
      else
        let (more, newLine, c) := plainText inFlow indent n c next newLine
        (gap ++ run ++ more, newLine, c)

/-- A plain scalar, and whether a line ended after its last character. -/
def plainScalar (inFlow : Bool) (outer : Int) (c : Cursor) : String × Bool × Cursor :=
  let (content, newLine, c) := plainText inFlow (outer + 1) (c.size + 1) c [] false
  (String.ofList content, newLine, c)

end Cursor
end Yaml
end HostTopology
