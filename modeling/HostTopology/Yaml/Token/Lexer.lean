import HostTopology.Text.Digit
import HostTopology.Yaml.Token.Scalar

/-!
# Lexer — the tokens of a YAML text

`Token.ofText` lists the tokens of a text. The list ends with `streamEnd`, or with `broken` where the
text stops being readable. Block structure is found from indentation, and a mapping key without its
own mark is found when the `:` after it is met: the lexer remembers where each such key could have
begun and puts the missing tokens there. Tokens at which a key mark may still be missing do not count
as read when the text breaks off.
-/

namespace HostTopology
namespace Yaml

open Cursor

/-- A place where a key without its own mark could begin. A key is required where the line starts at
the indentation of a block mapping. -/
structure SimpleKey where
  flow : Nat
  token : Nat
  required : Bool
  index : Nat
  line : Nat
  column : Nat
deriving Repr

/-- The last token comes first; `count` is the number of tokens. -/
structure Lexer where
  cursor : Cursor
  tokens : List Token
  count : Nat
  indent : Int
  outer : List Int
  flow : Nat
  keyAllowed : Bool
  keys : List SimpleKey

namespace Lexer

def start (cs : List Char) : Lexer :=
  ⟨Cursor.start cs, [], 0, -1, [], 0, true, []⟩

def inFlow (s : Lexer) : Bool :=
  s.flow != 0

def push (s : Lexer) (t : Token) : Lexer :=
  { s with tokens := t :: s.tokens, count := s.count + 1 }

/-- Puts a token before those from the given place on. -/
def insert (s : Lexer) (place : Nat) (t : Token) : Lexer :=
  { s with tokens := s.tokens.insertIdx (s.count - place) t, count := s.count + 1 }

/-! ## Gaps between tokens -/

/-- Skips spaces, comments and line ends. A key may start after a line end outside flow collections. -/
def skipGap : Nat → Lexer → Lexer
  | 0, s => s
  | n + 1, s =>
    let c := s.cursor.skipSpaces
    let c := if c.peek = '#' then c.skipWhile (!isBreakOrEnd ·) else c
    match c.lineBreak? with
    | some (_, c) => skipGap n { s with cursor := c, keyAllowed := s.keyAllowed || !s.inFlow }
    | none => { s with cursor := c }

/-! ## Simple keys -/

/-- Forgets keys on earlier lines and keys of more than 1024 characters. -/
def dropStaleKeys (s : Lexer) : Except Fault Lexer :=
  let isStale (k : SimpleKey) : Bool := k.line ≠ s.cursor.line || 1024 < s.cursor.index - k.index
  if s.keys.any fun k => isStale k && k.required then .error .malformed
  else .ok { s with keys := s.keys.filter fun k => !isStale k }

/-- Forgets the key of the present flow level. -/
def dropKey (s : Lexer) : Except Fault Lexer :=
  if s.keys.any fun k => k.flow = s.flow && k.required then .error .malformed
  else .ok { s with keys := s.keys.filter fun k => k.flow ≠ s.flow }

def saveKey (s : Lexer) : Except Fault Lexer :=
  if s.keyAllowed then do
    let required := !s.inFlow && s.indent = s.cursor.column
    let s ← s.dropKey
    let key := ⟨s.flow, s.count, required, s.cursor.index, s.cursor.line, s.cursor.column⟩
    .ok { s with keys := key :: s.keys }
  else
    .ok s

/-! ## Indentation -/

/-- The innermost indentation that is not beyond the column, those around it, and the number of
those inside it. -/
def unwindLevels (column : Int) : List Int → Int → Int × List Int × Nat
  | [], indent => (indent, [], 0)
  | next :: outer, indent =>
    if column < indent then
      let (indent, outer, closed) := unwindLevels column outer next
      (indent, outer, closed + 1)
    else (indent, next :: outer, 0)

/-- Closes the block collections that are indented further than the column. -/
def unwind (s : Lexer) (column : Int) : Lexer :=
  if s.inFlow then s
  else
    let (indent, outer, closed) := unwindLevels column s.outer s.indent
    { s with
      indent := indent
      outer := outer
      tokens := List.replicate closed .blockEnd ++ s.tokens
      count := s.count + closed }

/-- Opens a block collection at the column, putting its start token at a place in the list. -/
def openBlock (s : Lexer) (column place : Nat) (t : Token) : Lexer :=
  if s.indent < column then
    { s with indent := column, outer := s.indent :: s.outer }.insert place t
  else s

/-! ## Tokens -/

def advance (s : Lexer) (n : Nat) : Lexer :=
  { s with cursor := s.cursor.advance n }

def marker (s : Lexer) (t : Token) : Except Fault Lexer := do
  let s ← (s.unwind (-1)).dropKey
  .ok ({ s with keyAllowed := false }.advance 3 |>.push t)

def openFlow (s : Lexer) (t : Token) : Except Fault Lexer := do
  let s ← s.saveKey
  .ok ({ s with flow := s.flow + 1, keyAllowed := true }.advance 1 |>.push t)

/-- A closing bracket that nothing opens ends the reading. -/
def closeFlow (s : Lexer) (t : Token) : Except Fault Lexer := do
  let s ← s.dropKey
  if s.flow = 0 then .error .malformed
  else .ok ({ s with flow := s.flow - 1, keyAllowed := false }.advance 1 |>.push t)

def flowEntry (s : Lexer) : Except Fault Lexer := do
  let s ← s.dropKey
  .ok ({ s with keyAllowed := true }.advance 1 |>.push .flowEntry)

def blockEntry (s : Lexer) : Except Fault Lexer := do
  if !s.inFlow && !s.keyAllowed then
    .error .malformed
  else
    let s := if s.inFlow then s else s.openBlock s.cursor.column s.count .blockSequenceStart
    let s ← { s with keyAllowed := true }.dropKey
    .ok (s.advance 1 |>.push .blockEntry)

def keyMark (s : Lexer) : Except Fault Lexer := do
  if !s.inFlow && !s.keyAllowed then
    .error .malformed
  else
    let s := if s.inFlow then s else s.openBlock s.cursor.column s.count .blockMappingStart
    let s ← { s with keyAllowed := !s.inFlow }.dropKey
    .ok (s.advance 1 |>.push .key)

def valueMark (s : Lexer) : Except Fault Lexer := do
  match s.keys.find? fun k => k.flow = s.flow with
  | some k =>
    let s := { s with keys := s.keys.filter fun k => k.flow ≠ s.flow, keyAllowed := false }.insert k.token .key
    let s := if s.inFlow then s else s.openBlock k.column k.token .blockMappingStart
    .ok (s.advance 1 |>.push .value)
  | none =>
    if !s.inFlow && !s.keyAllowed then
      .error .malformed
    else
      let s := if s.inFlow then s else s.openBlock s.cursor.column s.count .blockMappingStart
      let s ← { s with keyAllowed := !s.inFlow }.dropKey
      .ok (s.advance 1 |>.push .value)

/-- Adds a token that can begin a simple key; after it no other may begin. -/
def keyStart (s : Lexer) (read : Cursor → Except Fault (Token × Cursor)) : Except Fault Lexer := do
  let s ← s.saveKey
  let (t, c) ← read s.cursor
  .ok ({ s with keyAllowed := false, cursor := c }.push t)

/-! ### Names and tags -/

def readName (make : String → Token) (c : Cursor) : Except Fault (Token × Cursor) :=
  let (name, c) := c.step.takeWhile isNameChar
  if name = [] ∨ ¬ (isGapOrEnd c.peek ∨ "?:,]\x7d%@\x60".toList.contains c.peek) then .error .malformed
  else .ok (make (String.ofList name), c)

/-- Octets escaped with percent signs, as UTF-8. -/
def readOctets : Nat → Cursor → Except Fault (List UInt8 × Cursor)
  | 0, c => .ok ([], c)
  | n + 1, c =>
    if c.peek = '%' then
      let digits := c.step.rest.take 2
      if digits.length = 2 ∧ digits.all isHexDigit then do
        let (octets, c) ← readOctets n (c.advance 3)
        .ok ((hexNumber digits).toUInt8 :: octets, c)
      else .error .malformed
    else .ok ([], c)

def readUriPart : Nat → Cursor → Except Fault (List Char × Cursor)
  | 0, c => .ok ([], c)
  | n + 1, c =>
    if c.peek = '%' then do
      let (octets, c) ← readOctets c.size c
      match String.fromUTF8? ⟨octets.toArray⟩ with
      | some s =>
        let (more, c) ← readUriPart n c
        .ok (s.toList ++ more, c)
      | none => .error .malformed
    else if isUriChar c.peek then do
      let (more, after) ← readUriPart n c.step
      .ok (c.peek :: more, after)
    else .ok ([], c)

def readUri (c : Cursor) : Except Fault (String × Cursor) := do
  let (uri, after) ← readUriPart (c.size + 1) c
  if after.index = c.index then .error .malformed else .ok (String.ofList uri, after)

/-- A tag handle: one mark, or a name between two. -/
def readHandle (c : Cursor) : Except Fault (String × Cursor) :=
  if c.peek ≠ '!' then .error .malformed
  else
    let (name, after) := c.step.takeWhile isNameChar
    if after.peek = '!' then .ok (String.ofList ('!' :: name ++ ['!']), after.step)
    else if name = [] ∧ after.peek = ' ' then .ok ("!", after)
    else .error .malformed

def readTag (c : Cursor) : Except Fault (Token × Cursor) := do
  let next := c.peekAt 1
  let (t, c) ← if next = '<' then do
      let (uri, c) ← readUri (c.advance 2)
      if c.peek = '>' then pure (Token.tag none uri, c.step) else .error .malformed
    else if isGapOrEnd next then
      pure (Token.tag none "!", c.step)
    else do
      let word := c.step.rest.takeWhile (!isSpaceOrEnd ·)
      let (handle, c) ← if '!' ∈ word then readHandle c else pure ("!", c.step)
      let (suffix, c) ← readUri c
      pure (Token.tag (some handle) suffix, c)
  if isSpaceOrEnd c.peek then .ok (t, c) else .error .malformed

/-! ### Directives -/

/-- A part of a version: digits, but not too many. -/
def readVersionPart (c : Cursor) : Except Fault (Nat × Cursor) :=
  let (digits, c) := c.takeWhile Char.isDigit
  if digits = [] then .error .malformed
  else if Text.numeralLimit < digits.length then .error .number
  else .ok (digits.foldl (fun n d => 10 * n + (d.toNat - '0'.toNat)) 0, c)

def readVersion (c : Cursor) : Except Fault (Token × Cursor) := do
  let (major, c) ← readVersionPart c.skipSpaces
  if c.peek ≠ '.' then .error .malformed
  else
    let (_, c) ← readVersionPart c.step
    if isSpaceOrEnd c.peek then .ok (.versionDirective major, c) else .error .malformed

def readTagDirective (c : Cursor) : Except Fault (Token × Cursor) := do
  let (handle, c) ← readHandle c.skipSpaces
  if c.peek ≠ ' ' then .error .malformed
  else
    let (lead, c) ← readUri c.skipSpaces
    if isSpaceOrEnd c.peek then .ok (.tagDirective handle lead, c) else .error .malformed

def readDirective (c : Cursor) : Except Fault (Token × Cursor) := do
  let (name, c) := c.step.takeWhile isNameChar
  if name = [] ∨ ¬ isSpaceOrEnd c.peek then .error .malformed
  else
    let (t, c) ← match String.ofList name with
      | "YAML" => readVersion c
      | "TAG" => readTagDirective c
      | _ => pure (.otherDirective, c.skipWhile (!isBreakOrEnd ·))
    .ok (t, ← c.ignoredLine)

/-! ## The next token -/

def startsPlain (s : Lexer) : Bool :=
  let ch := s.cursor.peek
  !(isGapOrEnd ch || "-?:,[]\x7b\x7d#&*!|>'\"%@\x60".toList.contains ch) ||
    (!isGapOrEnd (s.cursor.peekAt 1) && (ch = '-' || (!s.inFlow && (ch = '?' || ch = ':'))))

def readPlain (s : Lexer) : Except Fault Lexer := do
  let s ← s.saveKey
  let (content, newLine, c) := s.cursor.plainScalar s.inFlow s.indent
  .ok ({ s with keyAllowed := newLine, cursor := c }.push (.scalar true (.whole content)))

def readBlock (s : Lexer) : Except Fault Lexer := do
  let s ← { s with keyAllowed := true }.dropKey
  let (content, c) ← s.cursor.blockScalar s.indent
  .ok ({ s with cursor := c }.push (.scalar false (.whole content)))

def readQuoted (s : Lexer) : Except Fault Lexer :=
  s.keyStart fun c => do
    let (content, c) ← c.quotedScalar
    .ok (.scalar false content, c)

/-- Adds the next token, and the block tokens before it. -/
def next (s : Lexer) : Except Fault Lexer := do
  let s ← (skipGap (s.cursor.size + 1) s).dropStaleKeys
  let s := s.unwind s.cursor.column
  let c := s.cursor
  let gapNext := isGapOrEnd (c.peekAt 1)
  if c.atEnd then
    let s ← (s.unwind (-1)).dropKey
    return s.push .streamEnd
  else if c.peek = '%' ∧ c.column = 0 then
    let s ← (s.unwind (-1)).dropKey
    let (t, c) ← readDirective s.cursor
    return { s with keyAllowed := false, cursor := c }.push t
  else if c.column = 0 ∧ c.atMarker '-' then
    s.marker .documentStart
  else if c.column = 0 ∧ c.atMarker '.' then
    s.marker .documentEnd
  else match c.peek with
    | '[' => s.openFlow .flowSequenceStart
    | '\x7b' => s.openFlow .flowMappingStart
    | ']' => s.closeFlow .flowSequenceEnd
    | '\x7d' => s.closeFlow .flowMappingEnd
    | ',' => s.flowEntry
    | ch =>
      if ch = '-' ∧ gapNext then s.blockEntry
      else if ch = '?' ∧ (s.inFlow ∨ gapNext) then s.keyMark
      else if ch = ':' ∧ (s.inFlow ∨ gapNext) then s.valueMark
      else if ch = '*' then s.keyStart (readName .alias)
      else if ch = '&' then s.keyStart (readName .anchor)
      else if ch = '!' then s.keyStart readTag
      else if (ch = '|' ∨ ch = '>') ∧ !s.inFlow then s.readBlock
      else if ch = '\'' ∨ ch = '"' then s.readQuoted
      else if s.startsPlain then s.readPlain
      else .error .malformed

/-- The number of tokens that are certain: none of them can get a key mark before it any more. -/
def certain (s : Lexer) : Nat :=
  s.keys.foldl (fun n k => min n k.token) s.count

/-- The first tokens, and the fault that the text has behind them; last one first. -/
def breakAt (s : Lexer) (place : Nat) (fault : Fault) : List Token :=
  .broken fault :: s.tokens.drop (s.count - place)

/-- The tokens, last one first. Every token but the last consumes a character. Where the text breaks
off, only tokens that were certain before are left; `known` of them are certain already. -/
def run : Nat → Nat → Lexer → List Token
  | 0, _, s => s.tokens
  | n + 1, known, s =>
    match s.dropStaleKeys with
    | .error fault => s.breakAt known fault
    | .ok s =>
      let known := s.certain
      match s.next with
      | .error fault => s.breakAt known fault
      | .ok s => if s.tokens.head? = some .streamEnd then s.tokens else run n known s

end Lexer

/-- The tokens of a text. A byte order mark may start it. -/
def Token.ofText (text : String) : List Token :=
  let cs := text.toList
  if cs.all isAdmitted then
    let s := Lexer.start cs
    let s := if s.cursor.peek = '\uFEFF' then s.advance 1 else s
    (s.run (cs.length + 2) 0).reverse
  else
    [.broken .malformed]

end Yaml
end HostTopology
