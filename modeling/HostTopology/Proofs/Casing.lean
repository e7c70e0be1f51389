import HostTopology.Proofs.Characters
import Mathlib.Data.List.Forall2

/-!
# Casing — the variable of a variable

Words are kept apart in a variable by their capitals only, which are no separators: whoever makes a variable of a
variable takes it for one word, and puts it in lower case.

* `IsCamel` — ASCII letters and digits with a letter in front, which is the shape of every variable
  (`isCamel_variableName`);
* `variableName_of_isCamel` — the variable of a text of this shape is the text in lower case;
* `IsRecased` — texts that differ in the case of letters at most;
* `variableName_variableName` — what becomes of names whose variables are made into variables again.
-/

namespace HostTopology

open Text

/-! ## Case of ASCII texts -/

namespace Text

variable {c d : Char} {cs ds : List Char}

theorem lowerCode_of_ascii (h : c.toNat < 128) : lowerCode c.toNat = [c.toLower.toNat] := by
  have hhalf : isHalf c.toNat = false := by
    have hall : ∀ n : Fin 128, isHalf n = false := by decide
    exact hall ⟨c.toNat, h⟩
  rw [lowerCode, hhalf, Char.ofNat_toNat, lowerChar, if_pos h]
  rfl

theorem lowerAfter_of_ascii (before : List Nat) (h : ∀ c ∈ cs, c.toNat < 128) :
    lowerAfter before (cs.map Char.toNat) = (cs.map Char.toLower).map Char.toNat := by
  induction cs generalizing before with
  | nil => rfl
  | cons c cs ih =>
    have hc : c.toNat < 128 := h c List.mem_cons_self
    have hsigma : c.toNat ≠ 'Σ'.toNat := Nat.ne_of_lt (Nat.lt_trans hc (by decide))
    have hcs := ih (c.toNat :: before) fun d hd => h d (List.mem_cons_of_mem c hd)
    simp only [List.map_cons, lowerAfter, if_neg hsigma, lowerCode_of_ascii hc, hcs, List.singleton_append]

/-- Without a sigma no letter depends on its place. -/
theorem lower_of_ascii (h : ∀ c ∈ cs, c.toNat < 128) : lower cs = cs.map Char.toLower := by
  have hback : ∀ c ∈ cs.map Char.toLower, (Char.ofNat ∘ Char.toNat) c = c := fun c _ => Char.ofNat_toNat c
  rw [lower, lowerAfter_of_ascii [] h, List.map_map, List.map_congr_left hback, List.map_id']

/-- The same character, or a small letter and its capital. -/
def IsCaseOf (c d : Char) : Prop :=
  c = d ∨ c.toUpper = d ∨ c = d.toUpper

instance (c d : Char) : Decidable (IsCaseOf c d) :=
  inferInstanceAs (Decidable (_ ∨ _))

/-- Texts that differ in the case of letters at most. -/
def IsRecased (cs ds : List Char) : Prop :=
  List.Forall₂ IsCaseOf cs ds

theorem toLower_eq_iff (hc : c.isAlphanum = true) (hd : d.isAlphanum = true) :
    c.toLower = d.toLower ↔ IsCaseOf c d := by
  have hcases : ∀ {c : Char}, c.isAlphanum = true → c = c.toLower ∨ c = c.toLower.toUpper :=
    of_isAlphanum (P := fun c => c = c.toLower ∨ c = c.toLower.toUpper) (by decide)
  have hback : ∀ {c : Char}, c.isAlphanum = true → c.toUpper.toLower = c.toLower :=
    of_isAlphanum (P := fun c => c.toUpper.toLower = c.toLower) (by decide)
  constructor
  · -- each of the two is the small letter or its capital
    intro h
    rcases hcases hc with hc | hc <;> rcases hcases hd with hd | hd <;> rw [← h] at hd
    · exact Or.inl (hc.trans hd.symm)
    · exact Or.inr (Or.inl (by rw [hd, ← hc]))
    · exact Or.inr (Or.inr (by rw [hc, ← hd]))
    · exact Or.inl (hc.trans hd.symm)
  · rintro (rfl | rfl | rfl)
    · rfl
    · exact (hback hc).symm
    · exact hback hd

theorem map_toLower_eq_iff (hcs : ∀ c ∈ cs, c.isAlphanum = true) (hds : ∀ d ∈ ds, d.isAlphanum = true) :
    cs.map Char.toLower = ds.map Char.toLower ↔ IsRecased cs ds := by
  induction cs generalizing ds with
  | nil => cases ds <;> simp [IsRecased]
  | cons c cs ih =>
    cases ds with
    | nil => simp [IsRecased]
    | cons d ds =>
      obtain ⟨hc, hcs⟩ := List.forall_mem_cons.1 hcs
      obtain ⟨hd, hds⟩ := List.forall_mem_cons.1 hds
      rw [List.map_cons, List.map_cons, List.cons.injEq, toLower_eq_iff hc hd, ih hcs hds]
      exact List.forall₂_cons.symm

end Text

/-! ## Variables of variables -/

/-- ASCII letters and digits, with a letter in front. -/
structure IsCamel (s : String) : Prop extends IsVariable s where
  begins : ∀ c ∈ s.toList.head?, c.isAlpha = true

namespace Naming

variable {s : String} {cs : List Char}

theorem isAlpha_of_mem_head?_guardDigit (h : ∀ c ∈ cs, c.isAlphanum = true) :
    ∀ c ∈ (guardDigit 'n' cs).head?, c.isAlpha = true := by
  intro c hc
  rw [guardDigit] at hc
  split_ifs at hc with hdigit
  · obtain rfl : 'n' = c := by simpa using hc
    rfl
  · have hnot : c.isDigit = false := by simpa [Option.mem_def.1 hc] using hdigit
    have halnum := h c (List.mem_of_mem_head? hc)
    rwa [Char.isAlphanum, hnot, Bool.or_false] at halnum

theorem isCamel_variableName (name : String) : IsCamel (variableName name) := by
  refine ⟨isVariable_variableName name, fun c hc => ?_⟩
  have hwords : ∀ w ∈ asciiWords name.toList, ∀ c ∈ w, c.isAlphanum = true := fun w hw => isAlphanum_asciiWords hw
  rw [variableName, orElse] at hc
  split_ifs at hc with hnil
  · obtain rfl : 'r' = c := by simpa using hc
    rfl
  · rw [String.toList_ofList] at hc
    exact isAlpha_of_mem_head?_guardDigit (isAlphanum_camelCase hwords) c hc

/-- The whole text is one word. -/
theorem asciiWords_of_isVariable (h : IsVariable s) : asciiWords s.toList = [s.toList] := by
  rw [asciiWords, splitAll_of_not_isSep fun c hc => by simpa using h.isAlphanum c hc]
  exact List.filter_cons_of_pos (decide_eq_true h.toList_ne_nil)

/-- One word is put in lower case, and nothing is put before its first letter. -/
theorem variableName_of_isCamel (h : IsCamel s) : variableName s = String.ofList (s.toList.map Char.toLower) := by
  have hcamel : camelCase [s.toList] = s.toList.map Char.toLower := List.append_nil _
  have hne := h.toList_ne_nil
  have hguard : guardDigit 'n' (s.toList.map Char.toLower) = s.toList.map Char.toLower := by
    obtain ⟨c, cs, hcs⟩ := List.exists_cons_of_ne_nil hne
    have hletter : c.isAlpha = true := h.begins c (hcs ▸ rfl)
    have hc : c.isAlphanum = true := h.isAlphanum c (hcs ▸ List.mem_cons_self)
    have hdigit : c.toLower.isDigit = false :=
      of_isAlphanum (P := fun c => c.isAlpha = true → c.toLower.isDigit = false) (by decide) hc hletter
    simp [guardDigit, hcs, hdigit]
  rw [variableName, asciiWords_of_isVariable h.toIsVariable, hcamel, hguard, orElse, if_neg (by simpa using hne)]

/-- Every variable is ASCII letters and digits behind a letter. Its own variable is the same in lower case and stays as
it is from then on, so that it is shared exactly by names whose variables differ in the case of letters at most. -/
theorem variableName_variableName (name : String) : IsCamel (variableName name) ∧
    variableName (variableName name) = String.ofList (lower (variableName name).toList) ∧
      variableName (variableName (variableName name)) = variableName (variableName name) ∧
        ∀ other, variableName (variableName name) = variableName (variableName other) ↔
          IsRecased (variableName name).toList (variableName other).toList := by
  have hcamel := isCamel_variableName name
  have hlower := lower_of_ascii fun c hc => lt_of_isAlphanum (hcamel.isAlphanum c hc)
  have hsmall : ∀ c ∈ (variableName name).toList, c.toLower.toLower = c.toLower := fun c hc =>
    of_isAlphanum (P := fun c => c.toLower.toLower = c.toLower) (by decide) (hcamel.isAlphanum c hc)
  refine ⟨hcamel, ?_, ?_, fun other => ?_⟩
  · rw [variableName_of_isCamel hcamel, hlower]
  · rw [variableName_of_isCamel (isCamel_variableName (variableName name)), variableName_of_isCamel hcamel,
      String.toList_ofList, List.map_map]
    exact congrArg String.ofList (List.map_congr_left hsmall)
  · have hother := isCamel_variableName other
    rw [variableName_of_isCamel hcamel, variableName_of_isCamel hother, String.ofList_inj]
    exact map_toLower_eq_iff hcamel.isAlphanum hother.isAlphanum

end Naming
end HostTopology
