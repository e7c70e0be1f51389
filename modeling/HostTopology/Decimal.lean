/-!
# Decimal — floating-point numbers as decimal text

A finite floating-point number is `mantissa * 2 ^ exponent`. This file goes between that form and
decimal digits, in exact integer arithmetic:

* `Binary.shortest` — the fewest decimal digits that still read back as the number, and of those the
  nearest to it;
* `ofRatio` — the floating-point number nearest to a ratio, a half going to the even neighbour;
* `Style`, `render` — how the digits are laid out as text.
-/

namespace HostTopology
namespace Decimal

/-! ## Powers -/

def pow2 (n : Nat) : Nat :=
  Nat.pow 2 n

def pow10 (n : Nat) : Nat :=
  Nat.pow 10 n

/-! ## Binary form -/

/-- `mantissa * 2 ^ exponent`; `steep` tells that the gap to the next smaller number is half as wide
as the gap to the next larger one. -/
structure Binary where
  mantissa : Nat
  exponent : Int
  steep : Bool
deriving DecidableEq, Repr

def Binary.ofBits (bits : Nat) : Binary :=
  let field : Nat := bits / pow2 52 % pow2 11
  let fraction : Nat := bits % pow2 52
  if field = 0 then ⟨fraction, -1074, false⟩
  else ⟨pow2 52 + fraction, (field : Int) - 1075, fraction = 0 && 1 < field⟩

/-! ## Shortest digits -/

/-- Digits read as a natural number, and the power of ten they are multiplied with. -/
structure Digits where
  digits : Nat
  power : Int
deriving DecidableEq, Repr

/-- The number `k` with `10 ^ (k - 1) ≤ num / den < 10 ^ k`, for positive `num` and `den`. -/
def magnitude (num den : Nat) : Int :=
  if den ≤ num then
    (Nat.toDigits 10 (num / den)).length
  else
    let k : Int := 1 - ((Nat.toDigits 10 (den / num)).length : Int)
    if den ≤ num * pow10 (-k).toNat then k + 1 else k

/-- The multiple of `10 ^ power` nearest to the number, if one of its two neighbours among these
multiples reads back. An exact half goes to the even multiple. -/
def Binary.onGrid? (x : Binary) (power : Int) : Option Nat :=
  let up := pow10 power.toNat * pow2 (2 - x.exponent).toNat
  let down := pow10 (-power).toNat * pow2 (x.exponent - 2).toNat
  let value := 4 * x.mantissa * down
  let high := (4 * x.mantissa + 2) * down
  let low := (4 * x.mantissa - (if x.steep then 1 else 2)) * down
  let readsBack (n : Nat) : Bool :=
    if x.mantissa % 2 = 0 then low ≤ n * up && n * up ≤ high else low < n * up && n * up < high
  let below := value / up
  match readsBack below, readsBack (below + 1) with
  | false, false => none
  | true, false => some below
  | false, true => some (below + 1)
  | true, true =>
    let fromBelow := value - below * up
    let fromAbove := (below + 1) * up - value
    if fromBelow < fromAbove then some below
    else if fromAbove < fromBelow then some (below + 1)
    else some (if below % 2 = 0 then below else below + 1)

/-- The first grid, from one digit to seventeen, that holds a number reading back. -/
def Binary.shortest (x : Binary) : Digits :=
  let k := magnitude (x.mantissa * pow2 x.exponent.toNat) (pow2 (-x.exponent).toNat)
  let found := (List.range 17).findSome? fun i =>
    let power := k - (i + 1 : Nat)
    (x.onGrid? power).map fun n => Digits.mk n power
  found.getD ⟨x.mantissa, 0⟩

/-! ## Nearest floating-point number -/

/-- Division to the nearest integer, an exact half going to the even one. -/
def divNearest (num den : Nat) : Nat :=
  let q := num / den
  let r := num % den
  if 2 * r < den then q else if den < 2 * r then q + 1 else q + q % 2

/-- The bits of the floating-point number nearest to `num / den`, for a positive `den`. -/
def bitsOfRatio (num den : Nat) : Nat :=
  if num = 0 then 0
  else
    let guess : Int := (num.log2 : Int) - den.log2 - 52
    let scaled (q : Int) : Nat × Nat := (num * pow2 (-q).toNat, den * pow2 q.toNat)
    let q := if (scaled guess).1 < pow2 52 * (scaled guess).2 then guess - 1 else guess
    let q := max q (-1074)
    let m := divNearest (scaled q).1 (scaled q).2
    let bits := if m < pow2 52 then m else ((q + 1075).toNat <<< 52) + (m - pow2 52)
    min bits (0x7FF <<< 52)

def ofRatio (num den : Nat) : Float :=
  Float.ofBits (bitsOfRatio num den).toUInt64

/-- The floating-point number nearest to `digits * 10 ^ power`. Beyond four hundred places from the
point there are only zero and infinity. -/
def ofDigits (negative : Bool) (digits : Nat) (power : Int) : Float :=
  let places : Int := power + (Nat.toDigits 10 digits).length
  let size :=
    if digits = 0 ∨ places < -400 then 0.0
    else if 400 < places then ofRatio (pow2 1024) 1
    else ofRatio (digits * pow10 power.toNat) (pow10 (-power).toNat)
  if negative then -size else size

/-! ## Text -/

/-- The layout of decimal digits: the exponents of the first digit that are written with a plain
point, and the least number of digits of an exponent. -/
structure Style where
  leastPlain : Int
  mostPlain : Int
  exponentWidth : Nat

def padLeft (width : Nat) (cs : List Char) : List Char :=
  List.replicate (width - cs.length) '0' ++ cs

def Style.plain (digits : List Char) (exponent : Int) : List Char :=
  if exponent < 0 then
    '0' :: '.' :: List.replicate (-exponent - 1).toNat '0' ++ digits
  else
    let whole := exponent.toNat + 1
    let digits := digits ++ List.replicate (whole - digits.length) '0'
    let fraction := digits.drop whole
    digits.take whole ++ '.' :: (if fraction = [] then ['0'] else fraction)

def Style.scientific (style : Style) (digits : List Char) (exponent : Int) : List Char :=
  let mantissa := match digits with
    | first :: second :: rest => first :: '.' :: second :: rest
    | short => short
  let size := padLeft style.exponentWidth (Nat.toDigits 10 exponent.natAbs)
  mantissa ++ 'e' :: (if exponent < 0 then '-' else '+') :: size

/-- Trailing zeros are dropped; they stand in the power. -/
def Style.layout (style : Style) (d : Digits) : List Char :=
  let all := Nat.toDigits 10 d.digits
  let exponent : Int := d.power + all.length - 1
  let digits := (all.reverse.dropWhile (· = '0')).reverse
  if style.leastPlain ≤ exponent ∧ exponent ≤ style.mostPlain then Style.plain digits exponent
  else style.scientific digits exponent

def render (style : Style) (x : Float) : String :=
  let bits := x.toBits.toNat
  let sign := if bits / pow2 63 = 1 then ['-'] else []
  let size := bits % pow2 63
  if 0x7FF <<< 52 < size then "nan"
  else if size = 0x7FF <<< 52 then String.ofList (sign ++ ['i', 'n', 'f'])
  else if size = 0 then String.ofList (sign ++ ['0', '.', '0'])
  else String.ofList (sign ++ style.layout (Binary.ofBits size).shortest)

end Decimal
end HostTopology
