import HostTopology.Text.Blank

/-!
# Scalar — what a plain scalar is taken for

A scalar without quotes and without a tag is classed by its spelling. The classes are `Scalar.Kind`;
`Scalar.kind` finds the class of a text, and each class has its tag.
-/

namespace HostTopology
namespace Yaml
namespace Scalar

open Text

inductive Kind where
  | text
  | null
  | bool
  | int
  | float
  | timestamp
  | merge
  | defaultValue
  | indicator
deriving DecidableEq, Repr

def isNull (s : String) : Bool :=
  ["~", "null", "Null", "NULL"].contains s

def isBool (s : String) : Bool :=
  ["yes", "Yes", "YES", "no", "No", "NO", "true", "True", "TRUE", "false", "False", "FALSE",
    "on", "On", "ON", "off", "Off", "OFF"].contains s

/-! ## Numbers -/

def isDigitOrLow (c : Char) : Bool :=
  c.isDigit || c = '_'

/-- A digit, then digits and low lines. -/
def isDigitRun : List Char → Bool
  | c :: cs => c.isDigit && cs.all isDigitOrLow
  | [] => false

/-- A part of a number to the base sixty. -/
def isSixtieth : List Char → Bool
  | [d] => d.isDigit
  | [t, d] => '0' ≤ t && t ≤ '5' && d.isDigit
  | _ => false

def dropSign : List Char → List Char
  | '+' :: cs => cs
  | '-' :: cs => cs
  | cs => cs

def nonempty (p : Char → Bool) (cs : List Char) : Bool :=
  !cs.isEmpty && cs.all p

def isHexOrLow (c : Char) : Bool :=
  isDigitOrLow c || ('a' ≤ c && c ≤ 'f') || ('A' ≤ c && c ≤ 'F')

def isInt (cs : List Char) : Bool :=
  match dropSign cs with
  | ['0'] => true
  | '0' :: 'b' :: ds => nonempty (fun c => c = '0' || c = '1' || c = '_') ds
  | '0' :: 'x' :: ds => nonempty isHexOrLow ds
  | '0' :: ds => nonempty (fun c => ('0' ≤ c && c ≤ '7') || c = '_') ds
  | ds => match splitAll (· = ':') ds with
    | [] => false
    | first :: parts => isDigitRun first && parts.all isSixtieth

/-- An exponent with its sign, which has to be there, or nothing. -/
def isExponent : List Char → Bool
  | [] => true
  | e :: sign :: ds => (e = 'e' || e = 'E') && (sign = '+' || sign = '-') && nonempty Char.isDigit ds
  | _ => false

def isFraction (cs : List Char) : Bool :=
  isExponent (cs.dropWhile isDigitOrLow)

def isFloat (cs : List Char) : Bool :=
  match cut '.' (dropSign cs) with
  | (_, none) => false
  | ([], some fraction) =>
    ["inf", "Inf", "INF"].contains (String.ofList fraction) ||
      (dropSign cs = cs && (["nan", "NaN", "NAN"].contains (String.ofList fraction) ||
        (fraction.head?.any Char.isDigit && isFraction fraction)))
  | (whole, some fraction) =>
    match splitAll (· = ':') whole with
    | [] => false
    | [first] => isDigitRun first && isFraction fraction
    | first :: parts => isDigitRun first && parts.all isSixtieth && fraction.all isDigitOrLow

/-! ## Days and times -/

structure Clock where
  hour : List Char
  minute : List Char
  second : List Char
  fraction : List Char
  /-- Sign, hours and minutes of the offset; no sign for universal time. -/
  zone : Option (Option Char × List Char × List Char)

structure Stamp where
  year : List Char
  month : List Char
  day : List Char
  clock : Option Clock

/-- Between `least` and `most` digits at the start of a text; as many as there are. -/
def digits? (least most : Nat) (cs : List Char) : Option (List Char × List Char) :=
  let run := (cs.take most).takeWhile Char.isDigit
  if least ≤ run.length then some (run, cs.drop run.length) else none

def expect? (c : Char) : List Char → Option (List Char)
  | d :: cs => if c = d then some cs else none
  | [] => none

def zone? (cs : List Char) : Option (Option (Option Char × List Char × List Char)) :=
  match cs.dropWhile fun c => c = ' ' || c = '\t' with
  | [] => if cs = [] then some none else none
  | ['Z'] => some (some (none, [], []))
  | sign :: rest =>
    if sign = '+' ∨ sign = '-' then do
      let (hours, rest) ← digits? 1 2 rest
      match rest with
      | [] => some (some (some sign, hours, []))
      | _ => do
        let (minutes, rest) ← digits? 2 2 (← expect? ':' rest)
        if rest = [] then some (some (some sign, hours, minutes)) else none
    else none

def clock? (cs : List Char) : Option Clock := do
  let (hour, cs) ← digits? 1 2 cs
  let (minute, cs) ← digits? 2 2 (← expect? ':' cs)
  let (second, cs) ← digits? 2 2 (← expect? ':' cs)
  let (fraction, cs) := match cs with
    | '.' :: cs => (cs.takeWhile Char.isDigit, cs.dropWhile Char.isDigit)
    | _ => ([], cs)
  some ⟨hour, minute, second, fraction, ← zone? cs⟩

/-- A day, and a time on it after the letter `T` or white space. -/
def stamp? (cs : List Char) : Option Stamp := do
  let (year, cs) ← digits? 4 4 cs
  let (month, cs) ← digits? 1 2 (← expect? '-' cs)
  let (day, cs) ← digits? 1 2 (← expect? '-' cs)
  match cs with
  | [] => some ⟨year, month, day, none⟩
  | c :: rest =>
    if c = 'T' ∨ c = 't' then some ⟨year, month, day, some (← clock? rest)⟩
    else if c = ' ' ∨ c = '\t' then
      some ⟨year, month, day, some (← clock? (rest.dropWhile fun c => c = ' ' || c = '\t'))⟩
    else none

/-- A day alone needs two digits for the month and two for the day. -/
def isTimestamp (cs : List Char) : Bool :=
  match stamp? cs with
  | some ⟨_, month, day, none⟩ => month.length = 2 && day.length = 2
  | some _ => true
  | none => false

/-! ## The class of a text -/

def kind (content : String) : Kind :=
  if content.isEmpty then .null
  else
    let cs := dropFinalBreak content.toList
    let s := String.ofList cs
    if isNull s then .null
    else if isBool s then .bool
    else if isFloat cs then .float
    else if isInt cs then .int
    else if isTimestamp cs then .timestamp
    else if s = "<<" then .merge
    else if s = "=" then .defaultValue
    else if s = "!" ∨ s = "&" ∨ s = "*" then .indicator
    else .text

/-- The names of the standard tags start with this. -/
def tagLead : String := "tag:yaml.org,2002:"

def Kind.tag (k : Kind) : String :=
  tagLead ++ match k with
    | .text => "str"
    | .null => "null"
    | .bool => "bool"
    | .int => "int"
    | .float => "float"
    | .timestamp => "timestamp"
    | .merge => "merge"
    | .defaultValue => "value"
    | .indicator => "yaml"

end Scalar
end Yaml
end HostTopology
