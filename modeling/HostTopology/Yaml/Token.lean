import HostTopology.Text.Points

/-!
# Token — the lexical units of a YAML text

* `Fault` — why a text denotes no value;
* `Token` — the units the lexer produces; block structure shows as start and end tokens;
* `Cursor` — a place in the text with its line and column.
-/

namespace HostTopology
namespace Yaml

/-- Why a text denotes no value. Collections can be nested too deeply, and a scalar can stand for
itself; the faults between are scalars that their tag gives no value. -/
inductive Fault where
  | malformed
  | number
  | emptyNumber
  | hugeNumber
  | calendar
  | timestamp
  | collectionTimestamp
  | truthValue (content : String)
  | codePoint (code : Nat)
  | tooDeep
  | endless
deriving DecidableEq, Repr

inductive Token where
  | versionDirective (major : Nat)
  | tagDirective (handle lead : String)
  | otherDirective
  | documentStart
  | documentEnd
  | blockSequenceStart
  | blockMappingStart
  | blockEnd
  | flowSequenceStart
  | flowSequenceEnd
  | flowMappingStart
  | flowMappingEnd
  | blockEntry
  | flowEntry
  | key
  | value
  | alias (name : String)
  | anchor (name : String)
  | tag (handle : Option String) (suffix : String)
  | scalar (plain : Bool) (content : Text.Points)
  | streamEnd
  | broken (fault : Fault)
deriving DecidableEq, Repr

/-! ## Characters -/

/-- Stands for the end of the text; no admitted text contains it. -/
def endMark : Char := '\x00'

def isBreak (c : Char) : Bool :=
  c = '\r' || c = '\n' || c = '\x85' || c = '\u2028' || c = '\u2029'

def isBreakOrEnd (c : Char) : Bool :=
  isBreak c || c = endMark

def isSpaceOrEnd (c : Char) : Bool :=
  c = ' ' || isBreakOrEnd c

def isGapOrEnd (c : Char) : Bool :=
  c = '\t' || isSpaceOrEnd c

def isNameChar (c : Char) : Bool :=
  c.isAlphanum || c = '-' || c = '_'

def isUriChar (c : Char) : Bool :=
  c.isAlphanum || "-;/?:@&=+$,_.!~*'()[]%".toList.contains c

def isHexDigit (c : Char) : Bool :=
  c.isDigit || ('a' ≤ c && c ≤ 'f') || ('A' ≤ c && c ≤ 'F')

def hexDigitValue (c : Char) : Nat :=
  if c.isDigit then c.toNat - '0'.toNat else c.toLower.toNat - 'a'.toNat + 10

def hexNumber (cs : List Char) : Nat :=
  cs.foldl (fun n c => 16 * n + hexDigitValue c) 0

/-- The characters a text may hold. -/
def isAdmitted (c : Char) : Bool :=
  c = '\t' || c = '\n' || c = '\r' || (0x20 ≤ c.toNat && c.toNat ≤ 0x7E) || c = '\x85' ||
    (0xA0 ≤ c.toNat && c.toNat ≤ 0xD7FF) || (0xE000 ≤ c.toNat && c.toNat ≤ 0xFFFD) || 0x10000 ≤ c.toNat

/-! ## Places -/

/-- `size` is the length of the whole text; no loop over the rest takes more rounds. -/
structure Cursor where
  rest : List Char
  size : Nat
  index : Nat
  line : Nat
  column : Nat
deriving Repr

namespace Cursor

def start (cs : List Char) : Cursor :=
  ⟨cs, cs.length, 0, 0, 0⟩

def peekAt (c : Cursor) (k : Nat) : Char :=
  c.rest.getD k endMark

def peek (c : Cursor) : Char :=
  c.rest.headD endMark

def atEnd (c : Cursor) : Bool :=
  c.rest.isEmpty

/-- A byte order mark takes no column; a carriage return before a line feed ends no line. -/
def step (c : Cursor) : Cursor :=
  match c.rest with
  | [] => c
  | ch :: rest =>
    if (isBreak ch && ch != '\r') || (ch = '\r' && rest.head? != some '\n') then
      ⟨rest, c.size, c.index + 1, c.line + 1, 0⟩
    else
      ⟨rest, c.size, c.index + 1, c.line, if ch = '\uFEFF' then c.column else c.column + 1⟩

def advance (c : Cursor) : Nat → Cursor
  | 0 => c
  | n + 1 => c.step.advance n

def takeWhile (c : Cursor) (p : Char → Bool) : List Char × Cursor :=
  let run := c.rest.takeWhile p
  (run, c.advance run.length)

def skipWhile (c : Cursor) (p : Char → Bool) : Cursor :=
  (c.takeWhile p).2

def skipSpaces (c : Cursor) : Cursor :=
  c.skipWhile (· = ' ')

/-- The line break at the cursor, as it counts in a text, and the place after it. -/
def lineBreak? (c : Cursor) : Option (Char × Cursor) :=
  match c.rest with
  | '\r' :: '\n' :: _ => some ('\n', c.advance 2)
  | ch :: _ =>
    if ch = '\u2028' ∨ ch = '\u2029' then some (ch, c.step)
    else if isBreak ch then some ('\n', c.step)
    else none
  | [] => none

/-- A line that starts or ends a document: three equal marks and a gap. -/
def atMarker (c : Cursor) (mark : Char) : Bool :=
  c.rest.take 3 = [mark, mark, mark] && isGapOrEnd (c.peekAt 3)

def atDocumentMarker (c : Cursor) : Bool :=
  c.atMarker '-' || c.atMarker '.'

end Cursor
end Yaml
end HostTopology
