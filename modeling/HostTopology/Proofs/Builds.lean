import HostTopology.Proofs.Lines
import HostTopology.Proofs.Sketches

/-!
# Builds — what single instructions of a Dockerfile add

An instruction is its first word and what follows:

* `splitWord_append` — the word, and the rest without blanks around it;
* `Build.step_env`, `Build.step_expose` — variables and ports are added behind those that are there;
* `Build.envVars_step`, `Build.ports_step_of_env` — no other instruction adds variables, and this one no ports;
* `Build.foldl_withVariables` — what is added does not depend on the variables that are there.
-/

namespace HostTopology
namespace Dockerfile

open Text

variable {w rest instruction : List Char} {b : Char}

/-! ## Words -/

/-- A word that a blank follows is split off. -/
theorem splitWord_append (hne : w ≠ []) (hw : ∀ c ∈ w, isBlank c = false) (hb : isBlank b = true)
    (rest : List Char) : splitWord (w ++ b :: rest) = (w, trim rest) := by
  have hkept : trimLeft (w ++ b :: rest) = w ++ b :: rest := dropWhile_eq_self (stops_append hne hw _)
  have hall : ∀ c ∈ w, (!isBlank c) = true := by simpa using hw
  have hstop : Stops (fun c => !isBlank c) (b :: rest) := stops_cons.2 (by simp [hb])
  rw [splitWord, hkept, takeWhile_append_of_stops hall hstop, dropWhile_append_of_stops hall hstop,
    trim_cons_of_isBlank hb]

/-- Whatever follows the first word, it is the first word. -/
theorem fst_splitWord {blanks xs : List Char} (hblanks : ∀ c ∈ blanks, isBlank c = true) (hne : w ≠ [])
    (hw : ∀ c ∈ w, isBlank c = false) (hstop : Stops (fun c => !isBlank c) xs) :
    (splitWord (blanks ++ (w ++ xs))).1 = w := by
  have hkept : trimLeft (blanks ++ (w ++ xs)) = w ++ xs :=
    dropWhile_append_of_stops hblanks (stops_append hne hw xs)
  rw [splitWord, hkept]
  exact takeWhile_append_of_stops (by simpa using hw) hstop

/-- A text that is not blank has a first word. -/
theorem exists_first_word {cs : List Char} (h : trim cs ≠ []) : ∃ blanks w xs, cs = blanks ++ (w ++ xs) ∧
    (∀ c ∈ blanks, isBlank c = true) ∧ w ≠ [] ∧ (∀ c ∈ w, isBlank c = false) ∧ Stops (fun c => !isBlank c) xs := by
  obtain ⟨blanks, c, rest, rfl, hblanks, hc⟩ := exists_visible h
  refine ⟨blanks, (c :: rest).takeWhile fun c => !isBlank c, (c :: rest).dropWhile fun c => !isBlank c, ?_, hblanks, ?_,
    fun d hd => ?_, stops_dropWhile _ _⟩
  · rw [List.takeWhile_append_dropWhile]
  · simp [hc]
  · simpa using List.mem_takeWhile_imp hd

/-- A text that is not blank, and that a blank follows, keeps its first word whatever comes then. -/
theorem fst_splitWord_append {cs : List Char} (h : trim cs ≠ []) (hb : isBlank b = true) (rest : List Char) :
    (splitWord (cs ++ b :: rest)).1 = (splitWord (cs ++ [b])).1 := by
  obtain ⟨blanks, w, xs, rfl, hblanks, hne, hw, hstop⟩ := exists_first_word h
  have hword : ∀ ys, (splitWord (blanks ++ (w ++ xs) ++ b :: ys)).1 = w := by
    intro ys
    rw [List.append_assoc, List.append_assoc]
    exact fst_splitWord hblanks hne hw (stops_append_right hstop (stops_cons.2 (by simp [hb])))
  rw [hword, hword]

/-! ## Instructions -/

/-- The word that says what an instruction does. -/
def keyword (instruction : List Char) : String :=
  String.ofList (upper (splitWord instruction).1)

namespace Build

variable {build : Build}

theorem envVars_addPort (build : Build) (word : List Char) : (build.addPort word).envVars = build.envVars := by
  rw [addPort]
  split_ifs <;> rfl

/-- Only one instruction adds variables. -/
theorem envVars_step (h : keyword instruction ≠ "ENV") : (build.step instruction).envVars = build.envVars := by
  have hword : ¬ String.ofList (upper (splitWord instruction).1) = "ENV" := h
  simp only [step, if_neg hword]
  split_ifs
  · rfl
  · exact List.foldlRecOn (motive := fun found : Build => found.envVars = build.envVars) _ _ rfl
      fun found hfound word _ => (envVars_addPort found word).trans hfound
  · rfl

theorem ports_step_of_env (h : keyword instruction = "ENV") : (build.step instruction).ports = build.ports := by
  have hword : String.ofList (upper (splitWord instruction).1) = "ENV" := h
  simp [step, hword]

theorem step_env (build : Build) (rest : List Char) : build.step ("ENV".toList ++ ' ' :: rest) =
    { build with envVars := build.envVars ++ Dockerfile.envVars (trim rest) } := by
  have hsplit := splitWord_append (w := "ENV".toList) (by decide) (by decide) isBlank_space rest
  have hword : String.ofList (upper "ENV".toList) = "ENV" := by decide
  simp only [step, hsplit, hword]
  rfl

/-- A port that is not there yet is added. -/
theorem step_expose {port : List Char} (hdigits : allDigits port = true) (hvisible : ∀ c ∈ port, isBlank c = false)
    (hslash : '/' ∉ port) (hnew : String.ofList port ∉ build.ports) :
    build.step ("EXPOSE".toList ++ ' ' :: port) = { build with ports := build.ports ++ [String.ofList port] } := by
  have hne : port ≠ [] := by
    rintro rfl
    cases hdigits
  have htrim : trim port = port := trim_of_visible hvisible
  have hfields : fields port = [port] := by simp [fields, splitAll_of_not_isSep hvisible, hne]
  have hsplit := splitWord_append (w := "EXPOSE".toList) (by decide) (by decide) isBlank_space port
  have hword : String.ofList (upper "EXPOSE".toList) = "EXPOSE" := by decide
  have hadd : build.addPort port = { build with ports := build.ports ++ [String.ofList port] } := by
    simp [addPort, cut_of_not_mem hslash, hdigits, hnew]
  simp only [step, hsplit, hword, htrim, hfields]
  exact hadd

/-! ## What is there already -/

/-- A build that has variables in front of its own. -/
def withVariables (vs : List EnvVar) (build : Build) : Build :=
  { build with envVars := vs ++ build.envVars }

theorem withVariables_addPort (vs : List EnvVar) (build : Build) (word : List Char) :
    (build.withVariables vs).addPort word = (build.addPort word).withVariables vs := by
  have hports : (build.withVariables vs).ports = build.ports := rfl
  simp only [addPort, hports]
  split_ifs <;> rfl

/-- Variables that are there stay in front of what an instruction adds. -/
theorem withVariables_step (vs : List EnvVar) (build : Build) (instruction : List Char) :
    (build.withVariables vs).step instruction = (build.step instruction).withVariables vs := by
  simp only [step]
  split_ifs
  · rfl
  · exact List.foldl_hom (withVariables vs) (withVariables_addPort vs)
  · simp [withVariables]
  · rfl

theorem foldl_withVariables (vs : List EnvVar) (build : Build) (instructions : List (List Char)) :
    instructions.foldl step (build.withVariables vs) = (instructions.foldl step build).withVariables vs :=
  List.foldl_hom (withVariables vs) (withVariables_step vs)

end Build

end Dockerfile
end HostTopology
