/-!
# Points — texts with halves of characters

A text that is spelled by code points can spell the two halves of a character beyond U+FFFF one by
one, or one half alone. A half is no character, so such a text is no `String`.

* `Points` — a text, with or without halves;
* `Points.ofCodes` — the text with given code points;
* `Points.text` — the nearest `String`: two halves that belong together make their character.
-/

namespace HostTopology
namespace Text

/-- A code point that stands for half a character. -/
def isHalf (code : Nat) : Bool :=
  0xD800 ≤ code && code < 0xE000

/-- The code points of a text with halves are kept as numbers. -/
inductive Points where
  | whole (s : String)
  | halves (codes : List Nat)
deriving DecidableEq, Repr

namespace Points

def ofCodes (codes : List Nat) : Points :=
  if codes.any isHalf then .halves codes else .whole (String.ofList (codes.map Char.ofNat))

/-- A half without its other half is shown by the replacement character. -/
def charOfCode (code : Nat) : Char :=
  if isHalf code then '\uFFFD' else Char.ofNat code

def joinHalves : List Nat → List Char
  | high :: low :: rest =>
    if 0xD800 ≤ high ∧ high < 0xDC00 ∧ 0xDC00 ≤ low ∧ low < 0xE000 then
      Char.ofNat (0x10000 + (high - 0xD800) * 0x400 + (low - 0xDC00)) :: joinHalves rest
    else
      charOfCode high :: joinHalves (low :: rest)
  | [code] => [charOfCode code]
  | [] => []

def text : Points → String
  | whole s => s
  | halves codes => String.ofList (joinHalves codes)

@[simp] theorem text_whole (s : String) : (whole s).text = s := rfl

end Points
end Text
end HostTopology
