import HostTopology.Text.Points
import HostTopology.Text.PrintableTable
import HostTopology.Text.Ranges

/-!
# Quoted — a text between quotes, with escapes for what cannot be shown

`quoted` is the form in which messages cite a text of the user: between single quotes, or between
double quotes when the text has a single quote and no double one. `Points.quoted` is that form of a
text with halves of characters, which are always escaped.
-/

namespace HostTopology
namespace Text

def isPrintable (c : Char) : Bool :=
  if c.toNat < 0x80 then 0x20 ≤ c.toNat && c.toNat < 0x7F
  else !inRanges unprintableRanges c.toNat

/-- A number in hexadecimal, lower case, with at least `width` digits. -/
def hex (width n : Nat) : List Char :=
  let digits := Nat.toDigits 16 n
  List.replicate (width - digits.length) '0' ++ digits

/-- A character inside quotes of the given kind. -/
def quotedChar (quote c : Char) : List Char :=
  if c = quote ∨ c = '\\' then ['\\', c]
  else if c = '\t' then ['\\', 't']
  else if c = '\n' then ['\\', 'n']
  else if c = '\r' then ['\\', 'r']
  else if isPrintable c then [c]
  else if c.toNat < 0x100 then '\\' :: 'x' :: hex 2 c.toNat
  else if c.toNat < 0x10000 then '\\' :: 'u' :: hex 4 c.toNat
  else '\\' :: 'U' :: hex 8 c.toNat

/-- The quotes around a text. -/
def quoteFor (cs : List Char) : Char :=
  if '\'' ∈ cs ∧ '"' ∉ cs then '"' else '\''

def quoted (s : String) : String :=
  let cs := s.toList
  let quote := quoteFor cs
  String.ofList (quote :: cs.flatMap (quotedChar quote) ++ [quote])

/-- A code point inside quotes of the given kind. -/
def quotedCode (quote : Char) (code : Nat) : List Char :=
  if isHalf code then '\\' :: 'u' :: hex 4 code else quotedChar quote (Char.ofNat code)

def Points.quoted : Points → String
  | whole s => Text.quoted s
  | halves codes =>
    let quote := quoteFor (codes.map charOfCode)
    String.ofList (quote :: codes.flatMap (quotedCode quote) ++ [quote])

end Text
end HostTopology
