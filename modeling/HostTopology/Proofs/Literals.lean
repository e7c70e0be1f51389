import HostTopology.AppHost.Declaration
import HostTopology.Yaml.Token
import Mathlib.Data.List.TakeWhile

/-!
# Literals — what a quoted text denotes

Code is read by the rules of C#. A text between double quotes is a regular string literal: it stays on
one line, the next quote ends it, and a backslash begins an escape. Its value is a sequence of UTF-16
code units.

* `codeUnits` — the value that a text has;
* `escape?` — what stands after a backslash, and the code units that are meant by it;
* `Spells`, `Denotes` — a text is a literal, and this is its value;
* `denotes_literal_iff` — a text between quotes denotes that text exactly if it has no quote, no
  backslash and no line end.
-/

namespace HostTopology
namespace AppHost

variable {c : Char} {cs body rest rest' : List Char} {units units' : List Nat} {n width : Nat} {s : String}

/-! ## Code units -/

/-- A code point beyond U+FFFF has two code units. -/
def pointUnits (n : Nat) : List Nat :=
  if n < 0x10000 then [n] else [0xD800 + (n - 0x10000) / 0x400, 0xDC00 + (n - 0x10000) % 0x400]

def codeUnits (cs : List Char) : List Nat :=
  cs.flatMap fun c => pointUnits c.toNat

theorem length_pointUnits (n : Nat) : 1 ≤ (pointUnits n).length ∧ (pointUnits n).length ≤ 2 := by
  rw [pointUnits]
  split <;> simp

@[simp] theorem codeUnits_nil : codeUnits [] = [] := rfl

@[simp] theorem codeUnits_cons (c : Char) (cs : List Char) :
    codeUnits (c :: cs) = pointUnits c.toNat ++ codeUnits cs := by
  simp [codeUnits]

@[simp] theorem codeUnits_append (xs ys : List Char) : codeUnits (xs ++ ys) = codeUnits xs ++ codeUnits ys := by
  simp [codeUnits]

theorem length_le_codeUnits (cs : List Char) : cs.length ≤ (codeUnits cs).length := by
  induction cs with
  | nil => simp
  | cons c cs ih =>
    have hc := (length_pointUnits c.toNat).1
    simp only [codeUnits_cons, List.length_cons, List.length_append]
    omega

/-! ## Escapes -/

/-- Escapes of one character. -/
def simpleEscape? : Char → Option Nat
  | '\'' => some 0x27
  | '"' => some 0x22
  | '\\' => some 0x5C
  | '0' => some 0
  | 'a' => some 7
  | 'b' => some 8
  | 'e' => some 0x1B
  | 'f' => some 0xC
  | 'n' => some 0xA
  | 'r' => some 0xD
  | 't' => some 9
  | 'v' => some 0xB
  | _ => none

/-- A number of so many hexadecimal digits. -/
def number? (width : Nat) (cs : List Char) : Option (Nat × List Char) :=
  let digits := cs.take width
  if digits.length = width ∧ digits.all Yaml.isHexDigit then some (Yaml.hexNumber digits, cs.drop width)
  else none

/-- The escape after a backslash. After `x` as many digits count as there are, but no more than four. -/
def escape? : List Char → Option (List Nat × List Char)
  | 'x' :: cs =>
    let digits := (cs.take 4).takeWhile Yaml.isHexDigit
    if digits = [] then none else some ([Yaml.hexNumber digits], cs.drop digits.length)
  | 'u' :: cs => (number? 4 cs).map fun (n, rest) => ([n], rest)
  | 'U' :: cs => (number? 8 cs).bind fun (n, rest) => if n < 0x110000 then some (pointUnits n, rest) else none
  | c :: cs => (simpleEscape? c).map fun n => ([n], cs)
  | [] => none

theorem exists_digits (h : number? width cs = some (n, rest)) :
    ∃ digits, cs = digits ++ rest ∧ digits.length = width ∧ ∀ c ∈ digits, Yaml.isHexDigit c = true := by
  rw [number?] at h
  rcases Option.ite_none_right_eq_some.1 h with ⟨⟨hlength, hall⟩, heq⟩
  refine ⟨cs.take width, ?_, hlength, List.all_eq_true.1 hall⟩
  rw [← (Prod.mk.inj (Option.some.inj heq)).2, List.take_append_drop]

/-- An escape is one character, with digits behind it if it is a letter. It is no shorter than what it means. -/
theorem exists_escape (h : escape? cs = some (units, rest)) :
    ∃ c digits, cs = c :: (digits ++ rest) ∧ (∀ d ∈ digits, Yaml.isHexDigit d = true) ∧
      (c ≠ '"' ∨ digits = []) ∧ units.length ≤ digits.length + 1 := by
  rw [escape?.eq_def] at h
  split at h
  · -- the digits behind `x` end where there is no further one, or after four
    rename_i cs
    rcases Option.ite_none_left_eq_some.1 h with ⟨-, heq⟩
    rcases Prod.mk.inj (Option.some.inj heq) with ⟨rfl, rfl⟩
    have hbegins : (cs.take 4).takeWhile Yaml.isHexDigit <+: cs :=
      (List.takeWhile_prefix _).trans (List.take_prefix 4 cs)
    refine ⟨'x', (cs.take 4).takeWhile Yaml.isHexDigit, ?_, fun d hd => List.mem_takeWhile_imp hd, .inl (by decide),
      by simp⟩
    rw [List.prefix_iff_eq_append.1 hbegins]
  · rcases Option.map_eq_some_iff.1 h with ⟨⟨n, rest'⟩, hnumber, heq⟩
    rcases Prod.mk.inj heq with ⟨rfl, rfl⟩
    rcases exists_digits hnumber with ⟨digits, rfl, -, hall⟩
    exact ⟨'u', digits, rfl, hall, .inl (by decide), by simp⟩
  · -- eight digits mean two code units at most
    rcases Option.bind_eq_some_iff.1 h with ⟨⟨n, rest'⟩, hnumber, hrange⟩
    rcases Option.ite_none_right_eq_some.1 hrange with ⟨-, heq⟩
    rcases Prod.mk.inj (Option.some.inj heq) with ⟨rfl, rfl⟩
    rcases exists_digits hnumber with ⟨digits, rfl, hlength, hall⟩
    have hunits := (length_pointUnits n).2
    exact ⟨'U', digits, rfl, hall, .inl (by decide), by omega⟩
  · rename_i c cs _ _ _
    rcases Option.map_eq_some_iff.1 h with ⟨n, -, heq⟩
    rcases Prod.mk.inj heq with ⟨rfl, rfl⟩
    exact ⟨c, [], rfl, by simp, .inr rfl, by simp⟩
  · cases h

/-! ## Literals -/

/-- A character that stands for itself in a literal. Lines end where lines of YAML end. -/
def isVerbatim (c : Char) : Bool :=
  c ≠ '"' && c ≠ '\\' && !Yaml.isBreak c

def IsVerbatim (s : String) : Prop :=
  ∀ c ∈ s.toList, isVerbatim c = true

instance (s : String) : Decidable (IsVerbatim s) :=
  inferInstanceAs (Decidable (∀ c ∈ s.toList, isVerbatim c = true))

/-- A text after an opening quote goes on to a closing quote. The code units between them are spelled,
and the rest follows. -/
inductive Spells : List Char → List Nat → List Char → Prop
  | close (rest : List Char) : Spells ('"' :: rest) [] rest
  | plain {c : Char} {cs rest : List Char} {units : List Nat} (hc : isVerbatim c = true)
      (h : Spells cs units rest) : Spells (c :: cs) (pointUnits c.toNat ++ units) rest
  | escape {cs cs' rest : List Char} {escaped units : List Nat} (he : escape? cs = some (escaped, cs'))
      (h : Spells cs' units rest) : Spells ('\\' :: cs) (escaped ++ units) rest

/-- The whole text is a literal with this value. -/
def Denotes (text : String) (units : List Nat) : Prop :=
  ∃ cs, text.toList = '"' :: cs ∧ Spells cs units []

namespace Spells

/-- There is one way to read a literal. -/
theorem unique (h : Spells cs units rest) (h' : Spells cs units' rest') : units = units' ∧ rest = rest' := by
  induction h generalizing units' rest' with
  | close rest =>
    cases h' with
    | close _ => exact ⟨rfl, rfl⟩
    | plain hc _ => exact absurd hc (by decide)
  | plain hc _ ih =>
    cases h' with
    | close _ => exact absurd hc (by decide)
    | plain _ h' =>
      rcases ih h' with ⟨rfl, rfl⟩
      exact ⟨rfl, rfl⟩
    | escape _ _ => exact absurd hc (by decide)
  | escape he _ ih =>
    cases h' with
    | plain hc _ => exact absurd hc (by decide)
    | escape he' h' =>
      rcases Prod.mk.inj (Option.some.inj (he.symm.trans he')) with ⟨rfl, rfl⟩
      rcases ih h' with ⟨rfl, rfl⟩
      exact ⟨rfl, rfl⟩

/-- A text up to a quote is spelled if it is verbatim, whatever follows. -/
theorem of_verbatim (hbody : ∀ c ∈ body, isVerbatim c = true) (rest : List Char) :
    Spells (body ++ '"' :: rest) (codeUnits body) rest := by
  induction body with
  | nil => exact .close rest
  | cons c body ih =>
    rw [List.cons_append, codeUnits_cons]
    exact .plain (hbody c List.mem_cons_self) (ih fun d hd => hbody d (List.mem_cons_of_mem c hd))

/-- What is spelled is no longer than the text that spells it, and as long only if nothing is escaped. -/
theorem exists_body (h : Spells cs units rest) : ∃ body, cs = body ++ '"' :: rest ∧
    units.length ≤ (codeUnits body).length ∧
      ((codeUnits body).length ≤ units.length → ∀ c ∈ body, isVerbatim c = true) := by
  induction h with
  | close rest => exact ⟨[], rfl, Nat.le_refl _, fun _ c hc => absurd hc List.not_mem_nil⟩
  | @plain c _ _ units hc _ ih =>
    rcases ih with ⟨body, rfl, hle, hverbatim⟩
    refine ⟨c :: body, rfl, ?_, ?_⟩
    · simpa using hle
    · intro hge d hd
      rw [codeUnits_cons, List.length_append, List.length_append] at hge
      rcases List.mem_cons.1 hd with rfl | hd
      · exact hc
      · exact hverbatim (by omega) d hd
  | @escape _ _ _ escaped units he _ ih =>
    rcases ih with ⟨body, rfl, hle, -⟩
    rcases exists_escape he with ⟨c, digits, rfl, -, -, hescape⟩
    -- the backslash makes the text longer than the value
    have hlt : (escaped ++ units).length < (codeUnits ('\\' :: (c :: digits ++ body))).length := by
      have hbackslash := (length_pointUnits '\\'.toNat).1
      have hunits := length_le_codeUnits (c :: digits)
      rw [List.length_cons] at hunits
      rw [codeUnits_cons, codeUnits_append, List.length_append, List.length_append, List.length_append]
      omega
    refine ⟨'\\' :: (c :: digits ++ body), by simp, Nat.le_of_lt hlt, fun hge => absurd hge (by omega)⟩

end Spells

theorem spells_codeUnits_iff : Spells (body ++ '"' :: rest) (codeUnits body) rest ↔
    ∀ c ∈ body, isVerbatim c = true := by
  constructor
  · intro h
    rcases h.exists_body with ⟨body', heq, -, hverbatim⟩
    rw [← List.append_cancel_right heq] at hverbatim
    exact hverbatim (Nat.le_refl _)
  · intro h
    exact .of_verbatim h rest

theorem toList_literal (s : String) : (literal s).toList = '"' :: (s.toList ++ ['"']) := by
  simp [literal]

theorem denotes_literal : Denotes (literal s) units ↔ Spells (s.toList ++ ['"']) units [] := by
  rw [Denotes, toList_literal]
  constructor
  · rintro ⟨cs, hcs, h⟩
    rwa [(List.cons.inj hcs).2]
  · intro h
    exact ⟨_, rfl, h⟩

/-- Quotes alone make a literal of the text exactly if each of its characters stands for itself. -/
theorem denotes_literal_iff : Denotes (literal s) (codeUnits s.toList) ↔ IsVerbatim s := by
  rw [denotes_literal]
  exact spells_codeUnits_iff

/-- A quote in the text ends the literal before the text ends: what follows it is code. -/
theorem not_denotes_of_quote {before after : List Char} (hs : s.toList = before ++ '"' :: after)
    (hbefore : ∀ c ∈ before, isVerbatim c = true) (units : List Nat) : ¬ Denotes (literal s) units := by
  intro h
  rw [denotes_literal, hs, List.append_assoc, List.cons_append] at h
  have hrest := (h.unique (.of_verbatim hbefore (after ++ ['"']))).2
  simp at hrest

end AppHost
end HostTopology
