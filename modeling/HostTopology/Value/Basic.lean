import HostTopology.Text.Points

/-!
# Value — loosely typed data

The data of a document before its shape has been checked: what a text in a data format denotes, and
what a canvas hands over. This file defines

* `Date`, `Moment` — a day, and a time on a day;
* `Value` — scalars, lists, pairs, sets and mappings, which can hold themselves;
* `Value.opened` — a collection with itself in the places where it holds itself;
* `Value.entries?`, `Value.lookup?` — a mapping as an ordered list of entries, each key once;
* `insertEntry` — a later entry with a key that is present replaces the value and keeps the place.
-/

namespace HostTopology

structure Date where
  year : Nat
  month : Nat
  day : Nat
deriving DecidableEq, Repr

/-- A time on a day. The offset from universal time is in seconds, if one is given. -/
structure Moment where
  date : Date
  hour : Nat
  minute : Nat
  second : Nat
  micro : Nat
  offset : Option Int
deriving DecidableEq, Repr

namespace Date

def isLeap (year : Nat) : Bool :=
  year % 4 = 0 && (year % 100 ≠ 0 || year % 400 = 0)

def daysIn (year month : Nat) : Nat :=
  if month = 2 then (if isLeap year then 29 else 28)
  else if month = 4 ∨ month = 6 ∨ month = 9 ∨ month = 11 then 30
  else 31

def IsValid (d : Date) : Prop :=
  1 ≤ d.year ∧ 1 ≤ d.month ∧ d.month ≤ 12 ∧ 1 ≤ d.day ∧ d.day ≤ daysIn d.year d.month

instance (d : Date) : Decidable d.IsValid := by
  unfold IsValid
  infer_instance

/-- The days since the end of the year before the first. -/
def count (d : Date) : Int :=
  let years := d.year - 1
  let days := (List.range (d.month - 1)).foldl (fun n m => n + daysIn d.year (m + 1)) 0
  365 * years + years / 4 - years / 100 + years / 400 + days + d.day

end Date

namespace Moment

/-- The microseconds to a moment if its clock shows universal time. -/
def clockCount (m : Moment) : Int :=
  (((m.date.count * 24 + m.hour) * 60 + m.minute) * 60 + m.second) * 1000000 + m.micro

/-- Two moments with offsets are the same if they are at the same time; a moment without one is the
same as none that has one. -/
def same (a b : Moment) : Bool :=
  match a.offset, b.offset with
  | none, none => a = b
  | some x, some y => a.clockCount - x * 1000000 = b.clockCount - y * 1000000
  | _, _ => false

end Moment

/-- `halves` is a text that is no `String`. A collection that holds itself is a `loop`: in its body,
`enclosing` with the label of the loop stands for the collection. -/
inductive Value where
  | null
  | bool (b : Bool)
  | int (n : Int)
  | float (x : Float)
  | text (s : String)
  | halves (codes : List Nat)
  | bytes (octets : List UInt8)
  | date (d : Date)
  | moment (m : Moment)
  | list (items : List Value)
  | pair (first second : Value)
  | set (items : List Value)
  | mapping (entries : List (Value × Value))
  | loop (label : Nat) (body : Value)
  | enclosing (label : Nat) (isMapping : Bool)
deriving Inhabited

namespace Value

def ofPoints : Text.Points → Value
  | .whole s => text s
  | .halves codes => halves codes

/-! ## Collections that hold themselves -/

mutual

/-- Puts a value in the places of a label. -/
def fill (label : Nat) (whole : Value) : Value → Value
  | enclosing l isMapping => if l = label then whole else enclosing l isMapping
  | list items => list (fillAll label whole items)
  | pair first second => pair (fill label whole first) (fill label whole second)
  | mapping entries => mapping (fillEntries label whole entries)
  | loop l body => if l = label then loop l body else loop l (fill label whole body)
  | v => v

def fillAll (label : Nat) (whole : Value) : List Value → List Value
  | [] => []
  | v :: vs => fill label whole v :: fillAll label whole vs

def fillEntries (label : Nat) (whole : Value) : List (Value × Value) → List (Value × Value)
  | [] => []
  | (k, v) :: es => (k, fill label whole v) :: fillEntries label whole es

end

/-- A value that is no `loop`, with the same meaning. -/
def opened : Value → Value
  | loop label body => fill label (loop label body) body
  | v => v

/-! ## Keys -/

/-- Numbers of the three kinds that count as numbers. -/
inductive Number where
  | exact (n : Int)
  | approximate (x : Float)

def number? : Value → Option Number
  | bool b => some (.exact (if b then 1 else 0))
  | int n => some (.exact n)
  | float x => some (.approximate x)
  | _ => none

/-- The exact value of a float that is a whole number. -/
def wholeFloat? (x : Float) : Option Int :=
  let size := x.abs
  if size.isFinite && size.floor == size then
    let bits := size.toBits.toNat
    let field : Nat := bits / Nat.pow 2 52
    let n := if field = 0 then 0 else ((Nat.pow 2 52 + bits % Nat.pow 2 52) <<< (field - 1075)) >>> (1075 - field)
    some (if x < 0 then -(n : Int) else n)
  else
    none

def Number.same : Number → Number → Bool
  | .exact a, .exact b => a = b
  | .approximate a, .approximate b => a == b
  | .exact a, .approximate b => wholeFloat? b = some a
  | .approximate a, .exact b => wholeFloat? a = some b

/-- Two keys of a mapping are the same key. A truth value is the number one or zero. -/
def sameKey : Value → Value → Bool
  | null, null => true
  | text a, text b => a = b
  | halves a, halves b => a = b
  | bytes a, bytes b => a = b
  | date a, date b => a = b
  | moment a, moment b => a.same b
  | a, b => match a.number?, b.number? with
    | some a, some b => a.same b
    | _, _ => false

/-- Collections do not serve as keys. -/
def isScalar : Value → Bool
  | list _ | set _ | mapping _ | loop .. | enclosing .. => false
  | _ => true

def insertEntry (key value : Value) : List (Value × Value) → List (Value × Value)
  | [] => [(key, value)]
  | (k, v) :: rest => if sameKey k key then (k, value) :: rest else (k, v) :: insertEntry key value rest

def ofEntries (entries : List (Value × Value)) : List (Value × Value) :=
  entries.foldl (fun acc e => insertEntry e.1 e.2 acc) []

/-! ## Access -/

def entries? (v : Value) : Option (List (Value × Value)) :=
  match v.opened with
  | mapping es => some es
  | _ => none

def lookupEntry (name : String) (entries : List (Value × Value)) : Option Value :=
  (entries.find? fun e => match e.1 with | text s => s = name | _ => false).map Prod.snd

def lookup? (name : String) (v : Value) : Option Value :=
  v.entries?.bind (lookupEntry name)

end Value
end HostTopology
