import HostTopology.Entries
import HostTopology.Text.Blank
import HostTopology.Value.Display

/-!
# Shape — checking loosely typed data against a shape

A reader takes a `Value` to a typed result and reports every place where the data does not fit.

* `Violation` — a place, as the path from the root, and what is wrong there;
* `Checked` — a result, or all violations in the order of the shape; its applicative structure joins
  the violations of independent parts;
* readers for scalars (`text`, `int`, `bool`), lists, mappings and records.

Scalars are read generously: text that spells a number or a truth value is one, and bytes are the
text that they encode. A number that is wanted as text and has too many digits breaks the check off.
-/

namespace HostTopology
namespace Shape

/-! ## Violations -/

inductive Step where
  | name (s : String)
  | index (n : Int)
deriving DecidableEq, Repr

inductive Problem where
  | missing
  | extraForbidden
  | invalidKey
  | stringType
  | stringUnicode
  | intType
  | intParsing
  | intParsingSize
  | intFromFloat
  | finiteNumber
  | boolType
  | boolParsing
  | listType
  | tupleType
  | dictType
  | modelType
  | enumValue
deriving DecidableEq, Repr

def Problem.name : Problem → String
  | missing => "missing"
  | extraForbidden => "extra_forbidden"
  | invalidKey => "invalid_key"
  | stringType => "string_type"
  | stringUnicode => "string_unicode"
  | intType => "int_type"
  | intParsing => "int_parsing"
  | intParsingSize => "int_parsing_size"
  | intFromFloat => "int_from_float"
  | finiteNumber => "finite_number"
  | boolType => "bool_type"
  | boolParsing => "bool_parsing"
  | listType => "list_type"
  | tupleType => "tuple_type"
  | dictType => "dict_type"
  | modelType => "model_type"
  | enumValue => "enum"

structure Violation where
  path : List Step
  problem : Problem
deriving DecidableEq, Repr

/-- A result, or every violation; `broken` where the check cannot be carried on. -/
inductive Checked (α : Type) where
  | ok (a : α)
  | bad (violations : List Violation)
  | broken (e : Text.NumeralError)
deriving Repr

namespace Checked

def ofExcept {α : Type} : Except Text.NumeralError α → Checked α
  | .ok a => ok a
  | .error e => broken e

def seqRight {α β : Type} (f : Checked (α → β)) (a : Unit → Checked α) : Checked β :=
  match f with
  | broken e => broken e
  | ok f =>
    match a () with
    | ok a => ok (f a)
    | bad vs => bad vs
    | broken e => broken e
  | bad us =>
    match a () with
    | ok _ => bad us
    | bad vs => bad (us ++ vs)
    | broken e => broken e

instance : Applicative Checked where
  pure := ok
  seq := seqRight

def map {α β : Type} (f : α → β) (a : Checked α) : Checked β :=
  f <$> a

/-- Moves the violations one step down. -/
def under {α : Type} (step : Step) : Checked α → Checked α
  | bad vs => bad (vs.map fun v => { v with path := step :: v.path })
  | a => a

def fail {α : Type} (problem : Problem) : Checked α :=
  bad [⟨[], problem⟩]

/-- Adds violations found beside the result. -/
def also {α : Type} (a : Checked α) (more : List Violation) : Checked α :=
  match a, more with
  | a, [] => a
  | ok _, more => bad more
  | bad vs, more => bad (vs ++ more)
  | broken e, _ => broken e

end Checked

/-- The numbers that a word of 64 bits holds lie below this one and not below its negative. -/
def wordLimit : Int := 0x8000000000000000

def isSmall (n : Int) : Bool :=
  -wordLimit ≤ n && n < wordLimit

/-- In the name of a step every byte of a half is shown by a replacement character. -/
def shownCode (code : Nat) : List Char :=
  if Text.isHalf code then ['\uFFFD', '\uFFFD', '\uFFFD'] else [Char.ofNat code]

/-- The step to the entry of a mapping. A truth value is the number one or zero. -/
def Step.ofKey : Value → Step
  | .text s => .name s
  | .halves codes => .name (String.ofList (codes.flatMap shownCode))
  | .bool b => .index (if b then 1 else 0)
  | .int n =>
    if isSmall n then .index n else .name ((Text.writeNumeral n).toOption.getD "<unprintable int object>")
  | v => .name (v.cite.toOption.getD "<unprintable object>")

/-! ## Scalars -/

abbrev Reader (α : Type) := Value → Checked α

/-- The text that bytes encode. -/
def textOfBytes? (octets : List UInt8) : Option String :=
  String.fromUTF8? ⟨octets.toArray⟩

/-- A text; where `numbers` is set, also the text of a number. -/
def points (numbers : Bool) : Reader Text.Points
  | .text s => .ok (.whole s)
  | .halves codes => .ok (.halves codes)
  | .bytes octets =>
    match textOfBytes? octets with
    | some s => .ok (.whole s)
    | none => .fail .stringUnicode
  | .int n => if numbers then (Checked.ofExcept (Text.writeNumeral n)).map .whole else .fail .stringType
  | .float x => if numbers then .ok (.whole (Decimal.render numberStyle x)) else .fail .stringType
  | _ => .fail .stringType

def text (numbers : Bool) : Reader String := fun v =>
  (points numbers v).map Text.Points.text

/-- A scalar that is read from its text, if it is one; `problem` tells that bytes encode no text. -/
def fromText {α : Type} (problem : Problem) (ofText : String → Checked α) (other : Reader α) : Reader α
  | .text s => ofText s
  | .halves _ => .fail .stringUnicode
  | .bytes octets => ((textOfBytes? octets).map ofText).getD (.fail problem)
  | v => other v

/-! ### Numbers in text -/

/-- What follows leading zeros, which can have low lines between them: digits, or a minus sign. The
last zero stays if nothing or a point follows. -/
def dropZeros? : List Char → Option (List Char)
  | '0' :: cs =>
    let isZero (c : Char) : Bool := c = '0' || c = '_'
    let last := (cs.takeWhile isZero).getLast?.getD '0'
    match cs.dropWhile isZero with
    | [] => some [last]
    | c :: rest =>
      if c = '.' then some (last :: c :: rest)
      else if c.isDigit ∨ c = '-' then some (c :: rest)
      else none
  | c :: cs => if c.isDigit ∨ c = '-' then some (c :: cs) else none
  | [] => none

/-- Removes a point that has only zeros, at least one, after it. -/
def dropFraction (cs : List Char) : List Char :=
  match cs.dropWhile (· ≠ '.') with
  | _ :: zeros => if zeros ≠ [] ∧ zeros.all (· = '0') then cs.takeWhile (· ≠ '.') else cs
  | [] => cs

/-- Removes single low lines that stand between characters. -/
def dropLowLines (cs : List Char) : List Char :=
  if cs.head? = some '_' ∨ cs.getLast? = some '_' ∨ Text.contains ['_', '_'] cs then cs
  else cs.filter (· ≠ '_')

/-- A number as it is written: a minus sign or none, and digits without a leading zero, or a zero
alone. Where sign and digits are too many, it does not matter what follows them. -/
def writtenInt (cs : List Char) : Except Problem Int :=
  let negative := cs.head? = some '-'
  let digits := if negative then cs.drop 1 else cs
  let run := digits.takeWhile Char.isDigit
  if run = ['0'] ∧ digits = run then .ok 0
  else if run = [] ∨ run.head? = some '0' then .error .intParsing
  else if Text.numeralLimit < (if negative then 1 else 0) + run.length then .error .intParsingSize
  else if run ≠ digits then .error .intParsing
  else
    let n : Nat := run.foldl (fun n c => 10 * n + (c.toNat - '0'.toNat)) 0
    .ok (if negative then -n else n)

/-- A generously written number without what it can do without: white space around it, a plus sign,
leading zeros, a fraction of zeros and low lines. Leading zeros can also stand before the minus sign. -/
def cleanedInt? (cs : List Char) : Option (List Char) :=
  let clean (cs : List Char) := (dropZeros? cs).map fun cs => dropLowLines (dropFraction cs)
  match Text.trimBy Text.isSpace cs with
  | '+' :: '-' :: _ => none
  | '+' :: rest => clean rest
  | '-' :: rest => (clean rest).map ('-' :: ·)
  | cs => clean cs

/-- The integer that a text stands for, as it is or else when it is cleaned. Only a text that needs
no cleaning is told that its digits are too many. -/
def intOfText (s : String) : Checked Int :=
  match writtenInt s.toList with
  | .ok n => .ok n
  | .error .intParsingSize => .fail .intParsingSize
  | .error _ =>
    match (cleanedInt? s.toList).map writtenInt with
    | some (.ok n) => .ok n
    | _ => .fail .intParsing

/-- A float is a whole number if it is small and has no fraction. -/
def intOfFloat (x : Float) : Checked Int :=
  if x.isNaN || x.isInf then .fail .finiteNumber
  else
    match Value.wholeFloat? x with
    | none => .fail .intFromFloat
    | some n => if -wordLimit < n ∧ n < wordLimit then .ok n else .fail .intParsingSize

def int : Reader Int :=
  fromText .intParsing intOfText fun
    | .int n => .ok n
    | .bool b => .ok (if b then 1 else 0)
    | .float x => intOfFloat x
    | _ => .fail .intType

def boolOfInt (n : Int) : Checked Bool :=
  if n = 0 then .ok false else if n = 1 then .ok true else .fail .boolParsing

def boolOfText (s : String) : Checked Bool :=
  let word := String.ofList (s.toList.map Char.toLower)
  if ["1", "on", "t", "true", "y", "yes"].contains word then .ok true
  else if ["0", "off", "f", "false", "n", "no"].contains word then .ok false
  else .fail .boolParsing

def bool : Reader Bool :=
  fromText .boolParsing boolOfText fun
    | .bool b => .ok b
    | .int n => if isSmall n then boolOfInt n else .fail .boolType
    | .float x =>
      match intOfFloat x with
      | .ok n => boolOfInt n
      | _ => .fail .boolType
    | _ => .fail .boolType

/-- One of a few names. -/
def choice {α : Type} (ofName? : String → Option α) : Reader α :=
  fromText .enumValue
    (fun s => match ofName? s with
      | some a => .ok a
      | none => .fail .enumValue)
    fun _ => .fail .enumValue

def optional {α : Type} (read : Reader α) : Reader (Option α)
  | .null => .ok none
  | v => some <$> read v

/-! ## Collections -/

def items {α : Type} (read : Reader α) : Nat → List Value → Checked (List α)
  | _, [] => .ok []
  | n, v :: vs => List.cons <$> (read v).under (.index n) <*> items read (n + 1) vs

/-- A list; `problem` tells what anything else is. A set counts as the list of its members. -/
def listOr {α : Type} (problem : Problem) (read : Reader α) : Reader (List α) := fun v =>
  match v.opened with
  | .list vs => items read 0 vs
  | .set vs => items read 0 vs
  | .pair a b => items read 0 [a, b]
  | _ => .fail problem

def list {α : Type} : Reader α → Reader (List α) :=
  listOr .listType

/-- The list of a part that never changes. -/
def tuple {α : Type} : Reader α → Reader (List α) :=
  listOr .tupleType

def textEntries (numbers : Bool) : List (Value × Value) → Checked (List (Text.Points × String))
  | [] => .ok []
  | (k, v) :: rest =>
    let key := ((points numbers k).under (.name "[key]")).under (.ofKey k)
    let value := (text numbers v).under (.ofKey k)
    (fun k v rest => (k, v) :: rest) <$> key <*> value <*> textEntries numbers rest

/-- A mapping of texts to texts. Keys that become the same text are one key. -/
def textMapping (numbers : Bool) : Reader (List (String × String)) := fun v =>
  match v.opened with
  | .mapping entries =>
    (textEntries numbers entries).map fun es =>
      (es.foldl (fun acc e => Entries.put acc e.1 e.2) []).map fun (k, v) => (k.text, v)
  | _ => .fail .dictType

/-! ## Records -/

abbrev Fields := List (Value × Value)

def required {α : Type} (name : String) (read : Reader α) (fields : Fields) : Checked α :=
  match Value.lookupEntry name fields with
  | some v => (read v).under (.name name)
  | none => (Checked.fail .missing).under (.name name)

def withDefault {α : Type} (name : String) (absent : α) (read : Reader α) (fields : Fields) : Checked α :=
  match Value.lookupEntry name fields with
  | some v => (read v).under (.name name)
  | none => .ok absent

/-- The name of an entry, where its key is a text. -/
def keyName? : Value → Option String
  | .text s => some s
  | .bytes octets => textOfBytes? octets
  | _ => none

/-- Entries that a record does not have, in the order of the data. Only a text is the key of a field;
bytes that encode the name of a field which is there are passed over. -/
def extras (known : List String) (fields : Fields) : List Violation :=
  fields.filterMap fun (k, _) =>
    match keyName? k with
    | some s =>
      if known.contains s && (Value.lookupEntry s fields).isSome then none
      else some ⟨[.ofKey k], .extraForbidden⟩
    | none => some ⟨[.ofKey k], .invalidKey⟩

/-- A record with the fields it may have. -/
def record {α : Type} (read : Fields → Checked α) : Reader α := fun v =>
  match v.opened with
  | .mapping entries => read entries
  | _ => .fail .modelType

def isHalves : Value → Bool
  | .halves _ => true
  | _ => false

/-- A record with no entries but the known ones. A key with halves of characters hides what else is
wrong. -/
def closedRecord {α : Type} (known : List String) (read : Fields → Checked α) : Reader α :=
  record fun fields =>
    match read fields with
    | .broken e => .broken e
    | a => if fields.any (isHalves ·.1) then .fail .stringUnicode else a.also (extras known fields)

end Shape
end HostTopology
