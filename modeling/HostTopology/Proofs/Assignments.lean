import HostTopology.Proofs.Continuation
import HostTopology.Proofs.Insertion

/-!
# Assignments — variables of a Dockerfile with their values in double quotes

An instruction can set several variables, each with a key, an equals sign and a quoted value. Quotes are taken off
a value as characters: all of them, of both kinds.

* `assignmentLine` — the instruction for some variables;
* `envVars_assignments` — the variables are found one by one, with what is left of their values;
* `read_insert` — an instruction between others adds its variables to what the others say;
* `assignments_read_iff` — which values are read as they are.
-/

namespace HostTopology
namespace Dockerfile

open Text

variable {v : EnvVar} {pairs : List EnvVar}

/-! ## Quoted values -/

/-- The variable with its value in double quotes. -/
def assignmentText (v : EnvVar) : List Char :=
  v.key.toList ++ '=' :: '"' :: (v.value.toList ++ ['"'])

/-- The variable with what is left of its value when quotes are taken off. -/
def stripped (v : EnvVar) : EnvVar :=
  ⟨v.key, String.ofList (unquote v.value.toList)⟩

theorem stripped_eq_self_iff (hv : '"' ∉ v.value.toList) : stripped v = v ↔
    v.value.toList.head? ≠ some '\'' ∧ v.value.toList.getLast? ≠ some '\'' := by
  -- of the two kinds of quotes only one can be there
  have hstops : ∀ cs : List Char, '"' ∉ cs → (Stops (fun c => c = '"' || c = '\'') cs ↔ cs.head? ≠ some '\'') := by
    intro cs hcs
    cases cs with
    | nil => simp [Stops]
    | cons c cs =>
      have hc : c ≠ '"' := fun heq => hcs (heq ▸ List.mem_cons_self)
      simp [stops_cons, hc]
  have hvalue : stripped v = v ↔ unquote v.value.toList = v.value.toList := by
    rcases v with ⟨key, value⟩
    simp [stripped, ← String.toList_inj]
  rw [hvalue, unquote, trimBy_eq_self_iff, hstops _ hv, hstops _ (by simpa using hv), List.head?_reverse]

theorem assignment_assignmentText (hv : v.IsQuotable) (ys : List Char) :
    assignment (assignmentText v ++ ys) = some (stripped v, ys) := by
  have htext : assignmentText v ++ ys =
      v.key.toList ++ ("=".toList ++ ("\"".toList ++ (v.value.toList ++ ("\"".toList ++ ys)))) := by
    simp [assignmentText]
  have hstop : Stops isWord ("=".toList ++ ("\"".toList ++ (v.value.toList ++ ("\"".toList ++ ys)))) :=
    stops_append (by decide) (by decide) _
  have hquoted : quotedValue '"' ("\"".toList ++ (v.value.toList ++ ("\"".toList ++ ys))) =
      some ('"' :: v.value.toList ++ ['"'], ys) := by
    rw [quotedValue, show ('"' : Char).toString = "\"" by rfl, Scan.bind_apply (Scan.literal_append _ _),
      Scan.bind_apply (Scan.run_append (Scan.ne_quote hv.value_unquoted) (Scan.stops_quote ys)),
      Scan.bind_apply (Scan.literal_append _ _)]
    rfl
  -- the quotes around the value go, and the value loses those it has at its own ends
  have hinner : unquote ('"' :: v.value.toList ++ ['"']) = unquote v.value.toList :=
    trimBy_wrapped (by decide) (by decide) v.value.toList
  rw [htext, assignment, Scan.bind_apply (Scan.word_append hv.key_ne hv.key_word hstop),
    Scan.bind_apply (Scan.literal_append _ _), Scan.bind_apply (Scan.either_of_left hquoted), hinner]
  rfl

/-! ## Instructions -/

/-- An instruction that sets the variables. -/
def assignmentLine (pairs : List EnvVar) : Line :=
  "ENV".toList ++ pairs.flatMap fun v => ' ' :: assignmentText v

theorem all_assignments (h : ∀ v ∈ pairs, v.IsQuotable) :
    Scan.all assignment (pairs.flatMap fun v => ' ' :: assignmentText v) = pairs.map stripped := by
  induction pairs with
  | nil => rfl
  | cons v pairs ih =>
    have hv := h v List.mem_cons_self
    have hne : assignmentText v ≠ [] := by simp [assignmentText]
    rw [List.flatMap_cons, List.map_cons, ← ih fun w hw => h w (List.mem_cons_of_mem v hw)]
    generalize (pairs.flatMap fun v => ' ' :: assignmentText v) = rest
    -- no word begins with the blank
    have hskips : Scan.Skips assignment [' '] (assignmentText v ++ rest) := by
      intro u w huw hw
      have hblank : w = [' '] := (List.append_eq_singleton_iff.1 huw.symm).elim (·.2) fun hnil => absurd hnil.2 hw
      rw [hblank]
      rfl
    calc Scan.all assignment ([' '] ++ (assignmentText v ++ rest))
        = Scan.all assignment (assignmentText v ++ rest) := Scan.all_of_skips hskips
      _ = stripped v :: Scan.all assignment rest := Scan.all_of_hit hne (assignment_assignmentText hv rest)

/-- The variables are found one by one. -/
theorem envVars_assignments (hv : v.IsQuotable) (h : ∀ v ∈ pairs, v.IsQuotable) :
    envVars (assignmentText v ++ pairs.flatMap fun v => ' ' :: assignmentText v) = (v :: pairs).map stripped := by
  generalize hrest : (pairs.flatMap fun v => ' ' :: assignmentText v) = rest
  have hword : '=' ∈ (splitWord (assignmentText v ++ rest)).1 := by
    rw [splitWord, assignmentText, List.append_assoc, trimLeft,
      dropWhile_eq_self (stops_append hv.key_toList_ne hv.visible_key _),
      List.takeWhile_append_of_pos (by simpa using hv.visible_key)]
    exact List.mem_append_right _ (by simp [show isBlank '=' = false by decide])
  have hne : assignmentText v ≠ [] := by simp [assignmentText]
  have hfound : envVars (assignmentText v ++ rest) = Scan.all assignment (assignmentText v ++ rest) :=
    if_pos (List.contains_iff_mem.2 hword)
  rw [hfound, Scan.all_of_hit hne (assignment_assignmentText hv rest), ← hrest, all_assignments h, List.map_cons]

theorem exists_assignmentText (v : EnvVar) (pairs : List EnvVar) :
    ∃ cs, (assignmentText v ++ pairs.flatMap fun v => ' ' :: assignmentText v) = cs ++ ['"'] := by
  have hlast : ∀ w, assignmentText w = (w.key.toList ++ '=' :: '"' :: w.value.toList) ++ ['"'] := by simp [assignmentText]
  rcases List.eq_nil_or_concat pairs with rfl | ⟨front, w, rfl⟩
  · exact ⟨_, by rw [List.flatMap_nil, List.append_nil, hlast]⟩
  · refine ⟨assignmentText v ++ ((front.flatMap fun v => ' ' :: assignmentText v) ++
      ' ' :: (w.key.toList ++ '=' :: '"' :: w.value.toList)), ?_⟩
    simp [hlast w]

/-- The line is an instruction by itself, and adds its variables. -/
theorem step_assignmentLine (hne : pairs ≠ []) (h : ∀ v ∈ pairs, v.IsQuotable) :
    (trim (assignmentLine pairs) = assignmentLine pairs ∧ leadsOn (assignmentLine pairs) = false ∧
      isIdle (assignmentLine pairs) = false) ∧ ∀ build : Build, build.step (assignmentLine pairs) =
        { build with envVars := build.envVars ++ pairs.map stripped } := by
  obtain ⟨v, pairs, rfl⟩ := List.exists_cons_of_ne_nil hne
  obtain ⟨hv, hpairs⟩ := List.forall_mem_cons.1 h
  obtain ⟨cs, hcs⟩ := exists_assignmentText v pairs
  have htrim : trim (cs ++ ['"']) = cs ++ ['"'] := by
    refine trim_eq_self_iff.2 ⟨?_, ?_⟩
    · rw [← hcs, assignmentText, List.append_assoc]
      exact stops_append hv.key_toList_ne hv.visible_key _
    · rw [List.reverse_append]
      exact stops_cons.2 (by decide)
  have hline : assignmentLine (v :: pairs) = "ENV".toList ++ ' ' :: (cs ++ ['"']) := by
    rw [← hcs, assignmentLine, List.flatMap_cons, List.cons_append]
  refine ⟨?_, fun build => ?_⟩
  · -- the last quote is not a backslash
    rw [hline]
    exact plain_of_ends (b := 'E') (by decide) (by decide) (by decide) (by decide) ("NV ".toList ++ cs)
  · rw [hline, Build.step_env, htrim, ← hcs, envVars_assignments hv hpairs]

/-! ## One instruction more -/

/-- What is drafted with variables behind the first ones. -/
theorem Build.draft_withVariables (build : Build) (first vs : List EnvVar) (fileName : String) :
    (build.withVariables (first ++ vs)).draft fileName =
      ((build.withVariables first).draft fileName).insertVariables first.length vs := by
  simp [draft, withVariables, Draft.insertVariables, ResourceConfig.insertVariables]

section Insertion

variable {r : Registry} {reserved : List String} {fileName text text' : String} {before : List Line} {l : Line}
  {vs : List EnvVar}

/-- An instruction between others adds its variables behind those of the instructions before it. -/
theorem read_insert (hbetween : goesOn before = false) (hends : leadsOn l = false) (hidle : isIdle l = false)
    (hstep : ∀ build : Build, build.step (trim l) = { build with envVars := build.envVars ++ vs })
    (hinserts : Inserts before l text text') : Format.dockerfile.read r reserved fileName text' =
      (Format.dockerfile.read r reserved fileName text).map
        (Imported.insertVariables 0 (Build.ofLines before).envVars.length vs) := by
  obtain ⟨after, htext, htext'⟩ := hinserts
  -- what the lines after it add does not depend on the variables before them
  let bare : Build := { Build.ofLines before with envVars := [] }
  have hfirst : Build.ofLines before = bare.withVariables (Build.ofLines before).envVars := by
    simp [bare, Build.withVariables]
  have hmore : (Build.ofLines before).step (trim l) = bare.withVariables ((Build.ofLines before).envVars ++ vs) := by
    rw [hstep]
    simp [bare, Build.withVariables]
  have hwithout : Build.ofText text =
      ((joinLines [] after).foldl Build.step bare).withVariables (Build.ofLines before).envVars := by
    calc Build.ofText text
        = (joinLines [] after).foldl Build.step (Build.ofLines before) := by
          rw [Build.ofText_eq, htext, Build.ofLines_append hbetween]
      _ = _ := by rw [← Build.foldl_withVariables, ← hfirst]
  have hwith : Build.ofText text' =
      ((joinLines [] after).foldl Build.step bare).withVariables ((Build.ofLines before).envVars ++ vs) := by
    calc Build.ofText text'
        = (joinLines [] after).foldl Build.step ((Build.ofLines before).step (trim l)) := by
          rw [Build.ofText_eq, htext', Build.ofLines_append hbetween, joinLines_cons hends hidle, List.foldl_cons]
      _ = _ := by rw [hmore, Build.foldl_withVariables]
  have hsketch : Sketch.ofDockerfile fileName text' = (Sketch.ofDockerfile fileName text).modify 0
      (Draft.insertVariables (Build.ofLines before).envVars.length vs) := by
    rw [Sketch.ofDockerfile, Sketch.ofDockerfile, hwith, hwithout, Build.draft_withVariables]
    rfl
  exact Format.read_insertVariables rfl (congrArg Except.ok hsketch)

/-- The instruction adds its variables with what is left of their values. -/
theorem read_assignments (hne : pairs ≠ []) (hpairs : ∀ v ∈ pairs, v.IsQuotable) (hbetween : goesOn before = false)
    (hinserts : Inserts before (assignmentLine pairs) text text') :
    Format.dockerfile.read r reserved fileName text' = (Format.dockerfile.read r reserved fileName text).map
      (Imported.insertVariables 0 (Build.ofLines before).envVars.length (pairs.map stripped)) := by
  obtain ⟨⟨htrim, hends, hidle⟩, hstep⟩ := step_assignmentLine hne hpairs
  refine read_insert hbetween hends hidle (fun build => ?_) hinserts
  rw [htrim, hstep]

/-- Variables with quoted values are read in order, and all of them as they are exactly if no value has a single
quote at one of its ends. -/
theorem assignments_read_iff (hne : pairs ≠ []) (hpairs : ∀ v ∈ pairs, v.IsQuotable)
    (hbetween : goesOn before = false) (hinserts : Inserts before (assignmentLine pairs) text text') (r : Registry)
    (reserved : List String) (fileName : String) : Format.dockerfile.read r reserved fileName text' =
        (Format.dockerfile.read r reserved fileName text).map
          (Imported.insertVariables 0 (Build.ofLines before).envVars.length pairs) ↔
      ∀ v ∈ pairs, v.value.toList.head? ≠ some '\'' ∧ v.value.toList.getLast? ≠ some '\'' := by
  have hself : pairs.map stripped = pairs ↔ ∀ v ∈ pairs, stripped v = v := by
    simpa using List.map_inj_left (f := stripped) (g := id) (l := pairs)
  rw [read_assignments hne hpairs hbetween hinserts, Format.map_insertVariables_inj rfl Nat.one_pos, hself]
  exact forall₂_congr fun v hv => stripped_eq_self_iff (hpairs v hv).value_unquoted

end Insertion

/-- Values with a blank, with another assignment, and with single quotes within them. -/
def messages : List EnvVar :=
  [⟨"A", "b c"⟩, ⟨"B", " d=e"⟩, ⟨"C", "it's 'f' g"⟩, ⟨"D", ""⟩]

theorem messages_read :
    Inserts ["FROM redis".toList, "ENV X=\"1\" ".toList] (assignmentLine messages)
      "FROM redis\nENV X=\"1\" \nENV Y 2"
      "FROM redis\nENV X=\"1\" \nENV A=\"b c\" B=\" d=e\" C=\"it's 'f' g\" D=\"\"\nENV Y 2" ∧
    Format.dockerfile.read .standard [] "Dockerfile"
        "FROM redis\nENV X=\"1\" \nENV A=\"b c\" B=\" d=e\" C=\"it's 'f' g\" D=\"\"\nENV Y 2" =
      (Format.dockerfile.read .standard [] "Dockerfile" "FROM redis\nENV X=\"1\" \nENV Y 2").map
        (Imported.insertVariables 0 1 messages) := by
  have hinserts : Inserts ["FROM redis".toList, "ENV X=\"1\" ".toList] (assignmentLine messages)
      "FROM redis\nENV X=\"1\" \nENV Y 2"
      "FROM redis\nENV X=\"1\" \nENV A=\"b c\" B=\" d=e\" C=\"it's 'f' g\" D=\"\"\nENV Y 2" :=
    ⟨["ENV Y 2".toList], by decide +kernel⟩
  have hiff := assignments_read_iff (by decide) (by decide) (by decide +kernel) hinserts .standard [] "Dockerfile"
  exact ⟨hinserts, hiff.2 (by decide +kernel)⟩

/-- A value in single quotes loses them. -/
theorem quoted_not_read : EnvVar.IsQuotable ⟨"A", "'x'"⟩ ∧
    Inserts [] (assignmentLine [⟨"A", "'x'"⟩]) "" "ENV A=\"'x'\"\n" ∧
    Format.dockerfile.read .standard [] "Dockerfile" "ENV A=\"'x'\"\n" =
      (Format.dockerfile.read .standard [] "Dockerfile" "").map (Imported.insertVariables 0 0 [⟨"A", "x"⟩]) ∧
    Format.dockerfile.read .standard [] "Dockerfile" "ENV A=\"'x'\"\n" ≠
      (Format.dockerfile.read .standard [] "Dockerfile" "").map (Imported.insertVariables 0 0 [⟨"A", "'x'"⟩]) := by
  have hquotable : EnvVar.IsQuotable ⟨"A", "'x'"⟩ := ⟨by decide, by decide, by decide⟩
  have hinserts : Inserts [] (assignmentLine [⟨"A", "'x'"⟩]) "" "ENV A=\"'x'\"\n" := ⟨[], by decide +kernel⟩
  have hread : Format.dockerfile.read .standard [] "Dockerfile" "ENV A=\"'x'\"\n" =
      (Format.dockerfile.read .standard [] "Dockerfile" "").map (Imported.insertVariables 0 0 [⟨"A", "x"⟩]) :=
    read_assignments (by decide) (by simpa using hquotable) rfl hinserts
  refine ⟨hquotable, hinserts, hread, ?_⟩
  rw [hread, Ne, Format.map_insertVariables_inj rfl Nat.one_pos]
  decide

end Dockerfile
end HostTopology
