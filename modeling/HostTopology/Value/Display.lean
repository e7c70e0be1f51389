import HostTopology.Decimal
import HostTopology.Text.Digit
import HostTopology.Text.Quoted
import HostTopology.Value.Basic

/-!
# Display — values as text

* `Value.display` — the text of a value where a text is wanted: a text stands for itself;
* `Value.cite` — the text of a value inside a collection: texts are quoted, days and times are
  spelled as the expressions that make them.

A number with too many digits has no text, and so has no value that holds one.
-/

namespace HostTopology

/-- Up to sixteen digits before the point, up to four zeros after it, else an exponent of at least
two digits. -/
def numberStyle : Decimal.Style := ⟨-4, 15, 2⟩

def padded (width n : Nat) : String :=
  String.ofList (Decimal.padLeft width (Nat.toDigits 10 n))

namespace Date

def display (d : Date) : String :=
  padded 4 d.year ++ "-" ++ padded 2 d.month ++ "-" ++ padded 2 d.day

end Date

namespace Moment

def offsetText (offset : Int) : String :=
  let minutes := offset.natAbs / 60
  (if offset < 0 then "-" else "+") ++ padded 2 (minutes / 60) ++ ":" ++ padded 2 (minutes % 60)

def display (m : Moment) : String :=
  m.date.display ++ " " ++ padded 2 m.hour ++ ":" ++ padded 2 m.minute ++ ":" ++ padded 2 m.second
    ++ (if m.micro = 0 then "" else "." ++ padded 6 m.micro)
    ++ (m.offset.map offsetText).getD ""

/-- An offset is cited in whole days, rounded down, and seconds. -/
def citeOffset (offset : Int) : String :=
  if offset = 0 then "datetime.timezone.utc"
  else
    let days := Int.fdiv offset 86400
    let seconds := Int.fmod offset 86400
    let parts := (if days = 0 then [] else ["days=" ++ toString days])
      ++ (if seconds = 0 then [] else ["seconds=" ++ toString seconds])
    "datetime.timezone(datetime.timedelta(" ++ ", ".intercalate parts ++ "))"

def cite (m : Moment) : String :=
  let clock := [m.hour, m.minute]
    ++ (if m.second = 0 ∧ m.micro = 0 then [] else [m.second])
    ++ (if m.micro = 0 then [] else [m.micro])
  let parts := ([m.date.year, m.date.month, m.date.day] ++ clock).map toString
    ++ (m.offset.map fun o => "tzinfo=" ++ citeOffset o).toList
  "datetime.datetime(" ++ ", ".intercalate parts ++ ")"

end Moment

namespace Value

/-- A byte inside quotes of the given kind. -/
def citeByte (quote : Char) (b : UInt8) : List Char :=
  let c := Char.ofNat b.toNat
  if b < 0x7F then Text.quotedChar quote c else '\\' :: 'x' :: Text.hex 2 b.toNat

def citeBytes (octets : List UInt8) : String :=
  let quote := if 0x27 ∈ octets ∧ 0x22 ∉ octets then '"' else '\''
  String.ofList ('b' :: quote :: octets.flatMap (citeByte quote) ++ [quote])

def boolName (b : Bool) : String :=
  if b then "True" else "False"

/-- What stands for a collection inside itself. -/
def dots (isMapping : Bool) : String :=
  if isMapping then "\x7b...\x7d" else "[...]"

def isMapping : Value → Bool
  | mapping _ => true
  | _ => false

mutual

/-- The text of a value inside the loops with the given labels. -/
def citeIn (around : List Nat) : Value → Except Text.NumeralError String
  | null => .ok "None"
  | bool b => .ok (boolName b)
  | int n => Text.writeNumeral n
  | float x => .ok (Decimal.render numberStyle x)
  | text s => .ok (Text.quoted s)
  | halves codes => .ok (Text.Points.halves codes).quoted
  | bytes octets => .ok (citeBytes octets)
  | date d =>
    .ok ("datetime.date(" ++ ", ".intercalate ([d.year, d.month, d.day].map toString) ++ ")")
  | moment m => .ok m.cite
  | list items => do return "[" ++ ", ".intercalate (← citeAll around items) ++ "]"
  | pair first second => do
    return "(" ++ (← citeIn around first) ++ ", " ++ (← citeIn around second) ++ ")"
  | set items => do
    let texts ← citeAll around items
    return if texts.isEmpty then "set()" else "\x7b" ++ ", ".intercalate texts ++ "\x7d"
  | mapping entries => do return "\x7b" ++ ", ".intercalate (← citeEntries around entries) ++ "\x7d"
  | loop label body =>
    if label ∈ around then .ok (dots body.isMapping) else citeIn (label :: around) body
  | enclosing _ isMapping => .ok (dots isMapping)

def citeAll (around : List Nat) : List Value → Except Text.NumeralError (List String)
  | [] => .ok []
  | v :: vs => do return (← citeIn around v) :: (← citeAll around vs)

def citeEntries (around : List Nat) : List (Value × Value) → Except Text.NumeralError (List String)
  | [] => .ok []
  | (k, v) :: es => do
    let entry := (← citeIn around k) ++ ": " ++ (← citeIn around v)
    return entry :: (← citeEntries around es)

end

def cite (v : Value) : Except Text.NumeralError String :=
  citeIn [] v

def display : Value → Except Text.NumeralError String
  | text s => .ok s
  | halves codes => .ok (Text.Points.halves codes).text
  | date d => .ok d.display
  | moment m => .ok m.display
  | v => v.cite

end Value
end HostTopology
