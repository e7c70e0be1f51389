import HostTopology.Decimal
import HostTopology.Text.Blank
import HostTopology.Text.Digit
import HostTopology.Text.Letter
import HostTopology.Value.Basic
import HostTopology.Yaml.Scalar
import HostTopology.Yaml.Token

/-!
# Meaning — the values that scalars stand for

The tag of a scalar says how its text is read: `Scalar.readInt`, `readFloat`, `readBool`,
`readTimestamp`, `decodeBase64`. `Scalar.reader?` finds the way by the tag.
-/

namespace HostTopology
namespace Yaml
namespace Scalar

open Text

/-! ## Numbers -/

/-- The value of a letter or digit as a digit of a base, a decimal digit of any script included. -/
def digitValue? (base : Nat) (c : Char) : Option Nat :=
  let value := match decimalValue? c with
    | some d => some d
    | none => if c.isAlpha then some (c.toLower.toNat - 'a'.toNat + 10) else none
  value.filter (· < base)

def baseMark? (base : Nat) : Option Char :=
  [(2, 'b'), (8, 'o'), (16, 'x')].lookup base

/-- A zero and a letter before the digits may repeat the base. -/
def dropBaseMark (base : Nat) (cs : List Char) : List Char :=
  match cs, baseMark? base with
  | '0' :: c :: rest, some mark => if c.toLower = mark then rest else cs
  | _, _ => cs

/-- An integer with white space around it and a sign. -/
def integer (base : Nat) (cs : List Char) : Except Fault Int :=
  let cs := trimBy isSpace cs
  let digits := dropBaseMark base (dropSign cs)
  if digits = [] ∨ (base = 10 ∧ numeralLimit < digits.length) then .error .number
  else
    match digits.mapM (digitValue? base) with
    | some ds =>
      let n : Nat := ds.foldl (fun n d => base * n + d) 0
      .ok (if cs.head? = some '-' then -n else n)
    | none => .error .number

/-- The sum of the parts times powers of sixty, the last part first. -/
def sixties {α : Type} (add : α → α → α) (scale : α → Nat → α) (zero : α) (parts : List α) : α :=
  (parts.reverse.foldl (fun (acc : α × Nat) part => (add acc.1 (scale part acc.2), acc.2 * 60)) (zero, 1)).1

/-- A sign of its own stands before the digits that `integer` reads. -/
def readInt (content : String) : Except Fault Int := do
  let cs := content.toList.filter (· ≠ '_')
  let sign : Int := if cs.head? = some '-' then -1 else 1
  let unsigned := dropSign cs
  match unsigned with
  | [] => .error .emptyNumber
  | ['0'] => .ok 0
  | '0' :: 'b' :: rest => return sign * (← integer 2 rest)
  | '0' :: 'x' :: rest => return sign * (← integer 16 rest)
  | '0' :: _ => return sign * (← integer 8 unsigned)
  | _ =>
    let parts ← (splitAll (· = ':') unsigned).mapM (integer 10)
    return sign * sixties (fun (a : Int) b => a + b) (fun a scale => a * scale) 0 parts

/-- Digits, a point and digits, an exponent; or a name of infinity or of what is no number. -/
def decimal (cs : List Char) : Except Fault Float :=
  let cs := trimBy isSpace cs
  let negative := cs.head? = some '-'
  let unsigned := (dropSign cs).map Char.toLower
  if ["inf", "infinity"].contains (String.ofList unsigned) then
    .ok (if negative then -(1.0 / 0.0) else 1.0 / 0.0)
  else if unsigned = ['n', 'a', 'n'] then .ok (0.0 / 0.0)
  else
    let (mantissa, exponent) := cut 'e' unsigned
    let (whole, fraction) := cut '.' mantissa
    let fraction := fraction.getD []
    let power : Option Int := match exponent with
      | none => some 0
      | some cs =>
        let ds := dropSign cs
        if ds = [] then none
        else (ds.mapM (digitValue? 10)).map fun ds =>
          let n : Nat := ds.foldl (fun n d => 10 * n + d) 0
          if cs.head? = some '-' then -n else n
    match (whole ++ fraction).mapM (digitValue? 10), power with
    | some [], _ => .error .number
    | some ds, some power =>
      let n : Nat := ds.foldl (fun n d => 10 * n + d) 0
      .ok (Decimal.ofDigits negative n (power - fraction.length))
    | _, _ => .error .number

/-- The characters of a float that matter, without its sign. -/
def floatBody (content : String) : List Char :=
  dropSign ((content.toList.filter (· ≠ '_')).map Char.toLower)

/-- The standard spelling of what is no number. -/
def isNaNName (content : String) : Bool :=
  floatBody content = ['.', 'n', 'a', 'n']

/-- Parts of sixty are scaled by powers that have to be floats themselves. -/
def readFloat (content : String) : Except Fault Float := do
  let cs := content.toList.filter (· ≠ '_')
  let sign := if cs.head? = some '-' then -1.0 else 1.0
  let body := floatBody content
  if cs = [] then .error .emptyNumber
  else if body = ['.', 'i', 'n', 'f'] then return sign * (1.0 / 0.0)
  else if isNaNName content then return 0.0 / 0.0
  else
    match splitAll (· = ':') body with
    | [part] => return sign * (← decimal part)
    | parts =>
      let values ← parts.mapM decimal
      let scale (n : Nat) : Float := Decimal.ofRatio n 1
      if (scale (Nat.pow 60 (parts.length - 1))).isInf then .error .hugeNumber
      else return sign * sixties (· + ·) (fun x n => x * scale n) 0.0 values

/-! ## Other scalars -/

def readBool (content : Points) : Except Fault Bool :=
  let word := content.lower.text
  if ["yes", "true", "on"].contains word then .ok true
  else if ["no", "false", "off"].contains word then .ok false
  else .error (.truthValue word)

def digitsNumber (cs : List Char) : Nat :=
  cs.foldl (fun n c => 10 * n + (c.toNat - '0'.toNat)) 0

/-- The offset of a time zone is less than a day. -/
def readZone (sign : Char) (hours minutes : List Char) : Except Fault Int :=
  let seconds : Int := (digitsNumber hours * 60 + digitsNumber minutes) * 60
  if 86400 ≤ seconds then .error .calendar else .ok (if sign = '-' then -seconds else seconds)

/-- A fraction of a second is cut after six digits. -/
def microseconds (fraction : List Char) : Nat :=
  let digits := fraction.take 6
  digitsNumber (digits ++ List.replicate (6 - digits.length) '0')

def readTimestamp (content : String) : Except Fault Value :=
  match stamp? (dropFinalBreak content.toList) with
  | none => .error .timestamp
  | some stamp => do
    let date : Date := ⟨digitsNumber stamp.year, digitsNumber stamp.month, digitsNumber stamp.day⟩
    if ¬ date.IsValid then .error .calendar
    else
      match stamp.clock with
      | none => .ok (.date date)
      | some clock =>
        let hour := digitsNumber clock.hour
        let minute := digitsNumber clock.minute
        let second := digitsNumber clock.second
        if 24 ≤ hour ∨ 60 ≤ minute ∨ 60 ≤ second then .error .calendar
        else
          let offset ← match clock.zone with
            | none => pure none
            | some (none, _, _) => pure (some 0)
            | some (some sign, hours, minutes) => some <$> readZone sign hours minutes
          .ok (.moment ⟨date, hour, minute, second, microseconds clock.fraction, offset⟩)

def base64Value? (c : Char) : Option Nat :=
  if 'A' ≤ c ∧ c ≤ 'Z' then some (c.toNat - 'A'.toNat)
  else if 'a' ≤ c ∧ c ≤ 'z' then some (c.toNat - 'a'.toNat + 26)
  else if c.isDigit then some (c.toNat - '0'.toNat + 52)
  else if c = '+' then some 62
  else if c = '/' then some 63
  else none

/-- Reads groups of four digits. Other characters are passed over; padding that completes a group
ends the data. `place` is the number of digits of the group so far, `carry` their unused bits. -/
def base64Octets (place carry pads : Nat) : List Char → Option (List UInt8)
  | [] => if place = 0 then some [] else none
  | c :: cs =>
    if c = '=' then
      if 2 ≤ place ∧ 4 ≤ place + pads + 1 then some []
      else base64Octets place carry (if 2 ≤ place then pads + 1 else pads) cs
    else
      match base64Value? c, place with
      | none, _ => base64Octets place carry pads cs
      | some d, 0 => base64Octets 1 d 0 cs
      | some d, 1 => (base64Octets 2 (d % 16) 0 cs).map ((carry * 4 + d / 16).toUInt8 :: ·)
      | some d, 2 => (base64Octets 3 (d % 4) 0 cs).map ((carry * 16 + d / 4).toUInt8 :: ·)
      | some d, _ => (base64Octets 0 0 0 cs).map ((carry * 64 + d).toUInt8 :: ·)

def decodeBase64 (content : String) : Except Fault (List UInt8) :=
  if content.toList.all (·.toNat < 0x80) then
    match base64Octets 0 0 0 content.toList with
    | some octets => .ok octets
    | none => .error .malformed
  else .error .malformed

/-! ## Tags -/

/-- How the text of a scalar is read under a tag, by the name of the tag; none if the tag is not for
scalars. -/
def readerNamed? (name : String) : Option (Points → Except Fault Value) :=
  match name with
  | "str" => some fun c => .ok (.ofPoints c)
  | "null" => some fun _ => .ok .null
  | "bool" => some fun c => (readBool c).map .bool
  | "int" => some fun c => (readInt c.text).map .int
  | "float" => some fun c => (readFloat c.text).map .float
  | "timestamp" => some fun c => readTimestamp c.text
  | "binary" => some fun c => (decodeBase64 c.text).map .bytes
  | _ => none

/-- The name of a standard tag. -/
def standardName? (t : String) : Option String :=
  if tagLead.toList.isPrefixOf t.toList then some (String.ofList (t.toList.drop tagLead.length)) else none

def reader? (t : String) : Option (Points → Except Fault Value) :=
  (standardName? t).bind readerNamed?

end Scalar
end Yaml
end HostTopology
