import HostTopology.Proofs.Constraints
import HostTopology.Proofs.Quoting

/-!
# Passing — the texts that a declaration passes to the builder

Validation looks at the parameters of the method that declares a resource, and at the texts that will be passed for
them. The texts are made twice: once for validation, from the names of the parameters, and once for the call, from
its form. This file compares the two, and what a compiler reads in the call.

* `HasLiterals` — the literals of a piece of code, from left to right; `hasLiterals_call_iff` finds those of a call
  whose arguments are all quoted;
* `Shape.parameters` — the parameters that a form of the opening call passes texts for;
* `mapM_parameters` — they are the first ones of the method, validation looks at the same texts, and no other is
  required;
* `passed_literals_iff` — the call has literals of these values exactly if the name can be quoted as it is.
-/

namespace HostTopology
namespace AppHost

open Validation Catalog Naming Text

variable {i : ResourceInstance} {type : ResourceType} {cs rest text more : List Char} {units : List Nat}
  {values values' : List (List Nat)}

/-! ## Literals in a piece of code -/

/-- The literals of a piece of code without comments, with their values, from left to right. -/
inductive HasLiterals : List Char → List (List Nat) → Prop
  | nil : HasLiterals [] []
  | code {c : Char} {cs : List Char} {values : List (List Nat)} (hc : c ≠ '"') (h : HasLiterals cs values) :
      HasLiterals (c :: cs) values
  | literal {cs rest : List Char} {units : List Nat} {values : List (List Nat)} (hspells : Spells cs units rest)
      (h : HasLiterals rest values) : HasLiterals ('"' :: cs) (units :: values)

namespace HasLiterals

/-- There is one way to find the literals. -/
theorem unique (h : HasLiterals cs values) (h' : HasLiterals cs values') : values = values' := by
  induction h generalizing values' with
  | nil =>
    cases h'
    rfl
  | code hc _ ih =>
    cases h' with
    | code _ h' => exact ih h'
    | literal => exact absurd rfl hc
  | literal hspells _ ih =>
    cases h' with
    | code hc => exact absurd rfl hc
    | literal hspells' h' =>
      obtain ⟨rfl, rfl⟩ := hspells.unique hspells'
      rw [ih h']

theorem append_iff (hcode : '"' ∉ text) : HasLiterals (text ++ cs) values ↔ HasLiterals cs values := by
  induction text with
  | nil => exact Iff.rfl
  | cons c text ih =>
    rw [List.mem_cons, not_or] at hcode
    rw [List.cons_append, ← ih hcode.2]
    constructor
    · intro h
      cases h with
      | code _ h => exact h
      | literal => exact absurd rfl hcode.1
    · exact fun h => .code (Ne.symm hcode.1) h

theorem literal_iff : HasLiterals ('"' :: cs) (units :: values) ↔
    ∃ rest, Spells cs units rest ∧ HasLiterals rest values := by
  constructor
  · intro h
    cases h with
    | code hc => exact absurd rfl hc
    | literal hspells h => exact ⟨_, hspells, h⟩
  · rintro ⟨rest, hspells, h⟩
    exact .literal hspells h

end HasLiterals

/-! ## Quotes in escapes -/

/-- An escape has no quote in it, unless the quote is what is escaped. -/
theorem escape_of_quote (h : escape? cs = some (units, rest)) :
    cs = '"' :: rest ∨ ∃ escape, cs = escape ++ rest ∧ '"' ∉ escape := by
  obtain ⟨c, digits, rfl, hdigits, hkind, -⟩ := exists_escape h
  by_cases hc : c = '"'
  · left
    rw [hkind.resolve_left fun hne => hne hc, hc, List.nil_append]
  · right
    have hquote : '"' ∉ digits := fun hmem => absurd (hdigits _ hmem) (by decide)
    exact ⟨c :: digits, rfl, List.not_mem_cons_of_ne_of_not_mem (Ne.symm hc) hquote⟩

/-- Before a quote that is not escaped an escape ends; else the quote is all there is of it. -/
theorem escape_before_quote (h : escape? (text ++ '"' :: more) = some (units, rest)) :
    (text = [] ∧ rest = more) ∨ ∃ escape behind, text = escape ++ behind ∧ rest = behind ++ '"' :: more := by
  rcases escape_of_quote h with hquote | ⟨escape, heq, hmem⟩
  · cases text with
    | nil => exact Or.inl ⟨rfl, (List.cons.inj hquote).2.symm⟩
    | cons c text =>
      obtain ⟨rfl, hrest⟩ := List.cons.inj hquote
      exact Or.inr ⟨['"'], text, rfl, hrest.symm⟩
  · rcases List.append_eq_append_iff.1 heq with ⟨behind, hescape, hmore⟩ | ⟨behind, htext, hrest⟩
    · cases behind with
      | nil => exact Or.inr ⟨text, [], (List.append_nil _).symm, hmore.symm⟩
      | cons c behind =>
        -- the escape would go past the quote
        obtain ⟨rfl, -⟩ := List.cons.inj hmore
        exact absurd (hescape ▸ List.mem_append_right _ List.mem_cons_self) hmem
    · exact Or.inr ⟨escape, behind, htext, hrest⟩

/-- A literal ends at the next quote at the latest, unless there is a backslash in front of the quote. -/
theorem Spells.ends_or_escapes (h : Spells cs units rest) (hcs : cs = text ++ '"' :: more) :
    more.length ≤ rest.length ∨ ∃ init before behind,
      text = init ++ ['\\'] ∧ units = before ++ behind ∧ Spells more behind rest := by
  -- the text is read along with the literal, up to the quote or to a backslash that takes it
  induction h generalizing text with
  | close rest =>
    cases text with
    | nil =>
      obtain ⟨-, rfl⟩ := List.cons.inj hcs
      exact Or.inl (Nat.le_refl _)
    | cons c text =>
      rw [List.cons_append] at hcs
      obtain ⟨-, rfl⟩ := List.cons.inj hcs
      refine Or.inl ?_
      simp only [List.length_append, List.length_cons]
      omega
  | @plain c cs rest units hc _ ih =>
    cases text with
    | nil =>
      obtain ⟨rfl, -⟩ := List.cons.inj hcs
      exact absurd hc (by decide)
    | cons d text =>
      obtain ⟨rfl, htail⟩ := List.cons.inj hcs
      refine (ih htail).imp_right ?_
      rintro ⟨init, before, behind, rfl, rfl, hmore⟩
      exact ⟨c :: init, pointUnits c.toNat ++ before, behind, rfl, (List.append_assoc _ _ _).symm, hmore⟩
  | @escape cs cs' rest escaped units he hspells ih =>
    cases text with
    | nil => exact absurd (List.cons.inj hcs).1 (by decide)
    | cons d text =>
      obtain ⟨rfl, rfl⟩ := List.cons.inj hcs
      -- either the quote is escaped here, or it is still to come
      rcases escape_before_quote he with ⟨rfl, rfl⟩ | ⟨escape, after, rfl, hcs'⟩
      · exact Or.inr ⟨[], escaped, units, rfl, rfl, hspells⟩
      · refine (ih hcs').imp_right ?_
        rintro ⟨init, before, behind, rfl, rfl, hmore⟩
        exact ⟨'\\' :: (escape ++ init), escaped ++ before, behind, by simp, (List.append_assoc _ _ _).symm, hmore⟩

/-- A literal that ends with the text, and has its value, spells it. -/
theorem verbatim_of_spells (h : Spells (text ++ '"' :: more) (codeUnits text) rest)
    (hends : more.length ≤ rest.length) : ∀ c ∈ text, isVerbatim c = true := by
  -- the body of the literal is all of the text, or less
  obtain ⟨body, heq, hle, hverbatim⟩ := h.exists_body
  have hlength := congrArg List.length heq
  simp only [List.length_append, List.length_cons] at hlength
  have hbody : body <+: text ++ '"' :: more := heq ▸ List.prefix_append body _
  obtain ⟨behind, rfl⟩ := List.prefix_of_prefix_length_le hbody (List.prefix_append text _) (by omega)
  -- what is left of the text would make it longer than its value
  rw [codeUnits_append, List.length_append] at hle
  have hbehind := length_le_codeUnits behind
  obtain rfl : behind = [] := List.length_eq_zero_iff.1 (by omega)
  rw [List.append_nil] at hverbatim ⊢
  exact hverbatim (Nat.le_refl _)

/-! ## Literals in a call -/

/-- What follows the first of several quoted arguments. -/
def furtherArguments (texts : List (List Char)) : List Char :=
  texts.flatMap (fun text => ',' :: ' ' :: '"' :: (text ++ ['"'])) ++ [')']

theorem furtherArguments_cons (text : List Char) (texts : List (List Char)) :
    furtherArguments (text :: texts) = [',', ' '] ++ '"' :: (text ++ '"' :: furtherArguments texts) := by
  simp [furtherArguments]

theorem hasLiterals_furtherArguments {texts : List (List Char)}
    (htexts : ∀ text ∈ texts, ∀ c ∈ text, isVerbatim c = true) :
    HasLiterals (furtherArguments texts) (texts.map codeUnits) := by
  induction texts with
  | nil => exact .code (by decide) .nil
  | cons text texts ih =>
    obtain ⟨htext, htexts⟩ := List.forall_mem_cons.1 htexts
    rw [furtherArguments_cons, HasLiterals.append_iff (by decide)]
    exact .literal (.of_verbatim htext _) (ih htexts)

/-- A literal that goes on over the quote behind a text ends with the blank between two arguments. -/
theorem spells_furtherArguments {texts : List (List Char)} (h : Spells (furtherArguments texts) units rest) :
    units = codeUnits [',', ' '] := by
  cases texts with
  | nil =>
    -- there is no quote before the end
    obtain ⟨body, heq, -⟩ := h.exists_body
    have hmem : '"' ∈ furtherArguments [] := heq ▸ List.mem_append_right _ List.mem_cons_self
    exact absurd hmem (by decide)
  | cons text texts =>
    rw [furtherArguments_cons] at h
    exact (h.unique (.of_verbatim (by decide) _)).1

theorem hasLiterals_call_iff {callee name : List Char} {texts : List (List Char)} (hcallee : '"' ∉ callee)
    (htexts : (∀ c ∈ name, isVerbatim c = true) → ∀ text ∈ texts, ∀ c ∈ text, isVerbatim c = true) :
    HasLiterals (callee ++ '"' :: (name ++ '"' :: furtherArguments texts)) ((name :: texts).map codeUnits) ↔
      ∀ c ∈ name, isVerbatim c = true := by
  rw [HasLiterals.append_iff hcallee, List.map_cons, HasLiterals.literal_iff]
  constructor
  · rintro ⟨rest, hspells, -⟩
    -- only a backslash at the end of the name could take the literal past its quote
    rcases hspells.ends_or_escapes rfl with hends | ⟨init, before, behind, rfl, hunits, hmore⟩
    · exact verbatim_of_spells hspells hends
    · -- the value ends with the blank between two arguments, and the name with a backslash
      rw [spells_furtherArguments hmore] at hunits
      have hlast := congrArg List.getLast? hunits
      simp [pointUnits] at hlast
  · intro hname
    exact ⟨_, .of_verbatim hname _, hasLiterals_furtherArguments (htexts hname)⟩

/-! ## Texts for parameters -/

/-- The parameters that a form of the opening call passes texts for. -/
def Shape.parameters : Shape → List String
  | .generic | .project => ["name"]
  | .nodeApp => ["name", "scriptPath"]
  | .viteApp => ["name", "workingDirectory"]
  | .pythonApp => ["name", "projectDirectory", "scriptPath"]
  | .container => ["name", "image", "tag"]

/-- The method of a type takes these parameters first, and requires no other. -/
theorem take_parameters (htype : type ∈ resourceTypes) :
    (type.builder.parameters.map Parameter.name).take (shapeOf type.id).parameters.length =
        (shapeOf type.id).parameters ∧
      ∀ p ∈ type.builder.parameters.drop (shapeOf type.id).parameters.length, p.isRequired = false := by
  have hall : ∀ type ∈ resourceTypes,
      (type.builder.parameters.map Parameter.name).take (shapeOf type.id).parameters.length =
          (shapeOf type.id).parameters ∧
        ∀ p ∈ type.builder.parameters.drop (shapeOf type.id).parameters.length, p.isRequired = false := by
    decide
  exact hall type htype

theorem eq_of_shapeOf_pythonApp {id : String} (h : shapeOf id = .pythonApp) : id = "python-app" := by
  unfold shapeOf at h
  split at h <;> first | rfl | cases h

/-- For each of these parameters validation looks at the text that the call quotes. -/
theorem forall₂_builderArgument (hne : i.name ≠ "") (method name : String) :
    List.Forall₂ (fun parameter text => builderArgument i parameter = .ok (.text text))
      (shapeOf i.resourceType).parameters (openingCall i method name).toCall.quotedTexts := by
  have hname : builderArgument i "name" = .ok (.text i.name) := builderArgument_name
  rw [OpeningCall.quotedTexts_toCall, name_openingCall, openingCall]
  -- the forms differ in what they pass after the name
  cases hshape : shapeOf i.resourceType with
  | generic | project => exact .cons hname .nil
  | nodeApp =>
    have hpython : i.resourceType ≠ "python-app" := by
      intro htype
      rw [htype] at hshape
      cases hshape
    exact .cons hname (.cons (builderArgument_path (by decide) (fun h => hpython h.2) hne) .nil)
  | viteApp => exact .cons hname (.cons (builderArgument_path (by decide) (fun h => absurd h.1 (by decide)) hne) .nil)
  | pythonApp =>
    have hdirectory : builderArgument i "projectDirectory" = .ok (.text ("../" ++ i.name)) :=
      builderArgument_path (by decide) (fun h => absurd h.1 (by decide)) hne
    exact .cons hname (.cons hdirectory (.cons (builderArgument_script (eq_of_shapeOf_pythonApp hshape)) .nil))
  | container => exact .cons hname (.cons (builderArgument_image hne) (.cons builderArgument_tag .nil))

/-- What a method of the catalog is given for its first parameters, and that it asks for no more. -/
theorem mapM_parameters (htype : Registry.standard.find? i.resourceType = some type) (hne : i.name ≠ "")
    (method name : String) {values : List String}
    (hvalues : values = (openingCall i method name).toCall.quotedTexts) :
    (type.builder.parameters.take values.length).mapM (fun p => builderArgument i p.name) = .ok (values.map .text) ∧
      ∀ p ∈ type.builder.parameters.drop values.length, p.isRequired = false := by
  subst hvalues
  obtain ⟨hmem, hid⟩ := Registry.mem_types htype
  obtain ⟨htake, hrequired⟩ := take_parameters hmem
  have hpassed := forall₂_builderArgument hne method name
  rw [hid, hpassed.length_eq] at htake hrequired
  refine ⟨Except.mapM_eq_ok_iff.2 ?_, hrequired⟩
  rw [← htake, ← List.map_take, List.forall₂_map_left_iff] at hpassed
  exact List.forall₂_map_right_iff.2 hpassed

/-! ## Opening calls -/

/-- What a call quotes stands between commas. -/
theorem render_openingCall (call : OpeningCall) : call.render =
    call.toCall.callee ++ "(" ++ ", ".intercalate (call.toCall.quotedTexts.map literal) ++ ")" := by
  rw [call.quotedTexts_toCall, ← call.render_toCall, Call.render]
  simp [OpeningCall.toCall, Argument.render, Function.comp_def]

theorem toList_openingCall (call : OpeningCall) : call.render.toList = (call.toCall.callee ++ "(").toList ++
    '"' :: (call.name.toList ++ '"' :: furtherArguments (call.furtherTexts.map String.toList)) := by
  have hseparator : ", ".toList = [',', ' '] := rfl
  have hclose : ")".toList = [')'] := rfl
  rw [render_openingCall, call.quotedTexts_toCall, List.map_cons, String.intercalate_cons_eq_append_join]
  simp [furtherArguments, toList_literal, hseparator, hclose, List.flatMap_map]

/-- The name of a method of the catalog has no quote in it, and neither has the class of a project. -/
theorem quote_not_mem_callee (htype : Registry.standard.find? i.resourceType = some type) :
    '"' ∉ ((openingCall i type.builder.name (variableName i.name)).toCall.callee ++ "(").toList := by
  have hall : ∀ type ∈ resourceTypes, '"' ∉ type.builder.name.toList := by decide
  have hclass : ∀ className ∈ (openingCall i type.builder.name (variableName i.name)).className?,
      '"' ∉ className.toList := by
    intro className hclass hmem
    rw [openingCall] at hclass
    cases hshape : shapeOf i.resourceType with
    | project =>
      rw [hshape] at hclass
      obtain rfl := Option.some.inj hclass
      have hvariable := isVariable_capitalizeFirst (isVariable_variableName i.name)
      exact absurd (hvariable.isAlphanum _ hmem) (by decide)
    | _ =>
      rw [hshape] at hclass
      cases hclass
  have hmethod := hall type (Registry.mem_types htype).1
  rw [OpeningCall.toCall, receiver_openingCall, method_openingCall htype]
  cases hsome : (openingCall i type.builder.name (variableName i.name)).className? with
  | none => simp [hmethod]
  | some className => simp [hmethod, hclass className hsome]

/-- The literals of the call that declares an instance have the values of the texts that it quotes exactly if each
character of the name stands for itself. -/
theorem hasLiterals_openingCall_iff (htype : Registry.standard.find? i.resourceType = some type) {call : OpeningCall}
    (hcall : call = openingCall i type.builder.name (variableName i.name)) :
    HasLiterals call.render.toList (call.toCall.quotedTexts.map fun text => codeUnits text.toList) ↔
      IsVerbatim i.name := by
  have hname : call.name = i.name := by rw [hcall, name_openingCall]
  have hfurther : IsVerbatim i.name →
      ∀ text ∈ call.furtherTexts.map String.toList, ∀ c ∈ text, isVerbatim c = true := by
    intro hverbatim
    refine List.forall_mem_map.2 fun text htext => isVerbatim_formTexts hverbatim text ?_
    rw [← texts_openingCall i type.builder.name (variableName i.name), ← hcall]
    exact List.mem_append_left _ htext
  have hvalues : call.toCall.quotedTexts.map (fun text => codeUnits text.toList) =
      (i.name.toList :: call.furtherTexts.map String.toList).map codeUnits := by
    rw [call.quotedTexts_toCall, hname, List.map_cons, List.map_cons, List.map_map]
    rfl
  rw [toList_openingCall, hvalues, hname]
  exact hasLiterals_call_iff (hcall ▸ quote_not_mem_callee htype) hfurther

/-- The first statement of a declaration opens with a call whose quoted texts are, in order, those that validation
looks at for the first parameters of the method of the type, and no other parameter is required. The literals of the
call have these values exactly if each character of the name stands for itself. -/
theorem passed_literals_iff (t : Topology) (htype : Registry.standard.find? i.resourceType = some type)
    (hne : i.name ≠ "") : ∃ (d : Declaration) (s : Statement) (rest : List Statement) (values : List String),
      declare? .standard t i = some d ∧ d.statements = s :: rest ∧ values = s.opening.toCall.quotedTexts ∧
      s.opening.render = s.opening.toCall.callee ++ "(" ++ ", ".intercalate (values.map literal) ++ ")" ∧
      (type.builder.parameters.take values.length).mapM (fun p => builderArgument i p.name) = .ok (values.map .text) ∧
      (∀ p ∈ type.builder.parameters.drop values.length, p.isRequired = false) ∧
      (HasLiterals s.opening.render.toList (values.map fun text => codeUnits text.toList) ↔ IsVerbatim i.name) := by
  obtain ⟨d, hd⟩ : ∃ d, declare? .standard t i = some d := by
    have hpresent : present i.name = true := by simpa [present] using hne
    rw [declare?, hpresent, htype]
    exact ⟨_, rfl⟩
  obtain ⟨s, rest, hstatements, hopening, -⟩ := List.map_eq_cons_iff.1 (map_opening_of_declare? hd htype)
  obtain ⟨hpassed, hrequired⟩ := mapM_parameters htype hne type.builder.name (variableName i.name) rfl
  refine ⟨d, s, rest, _, hd, hstatements, rfl, render_openingCall s.opening, ?_, ?_, ?_⟩
  · rwa [hopening]
  · rwa [hopening]
  · exact hasLiterals_openingCall_iff htype hopening

/-- A service with a script. -/
def worker : ResourceInstance :=
  ⟨"1", "python-app", "worker", none, .empty⟩

theorem worker_passed : ∃ (d : Declaration) (s : Statement) (values : List String),
    declare? .standard .empty worker = some d ∧ d.statements = [s] ∧ values = ["worker", "../worker", "main.py"] ∧
      s.opening.render = "builder.AddPythonApp(\"worker\", \"../worker\", \"main.py\")" ∧
      HasLiterals s.opening.render.toList (values.map fun text => codeUnits text.toList) := by
  obtain ⟨type, htype⟩ := Option.isSome_iff_exists.1
    (by decide : (Registry.standard.find? worker.resourceType).isSome = true)
  obtain ⟨d, s, rest, values, hd, hstatements, rfl, -, -, -, hliterals⟩ := passed_literals_iff .empty htype (by decide)
  have hdeclared : declare? .standard .empty worker =
      some ⟨"Python App", [⟨"worker", .pythonApp "worker", []⟩]⟩ := by decide
  obtain rfl := Option.some.inj (hdeclared.symm.trans hd)
  obtain ⟨rfl, rfl⟩ := List.cons.inj hstatements
  exact ⟨_, _, _, hd, rfl, by decide, by decide, hliterals.2 (by decide)⟩

/-- A cache with quotes and a comma in its name. -/
def paired : ResourceInstance :=
  ⟨"1", "redis", "a\", \"b", none, .empty⟩

/-- The quotes in the name are not escaped, and make two literals of one text. -/
theorem paired_not_passed : ∃ (d : Declaration) (s : Statement), declare? .standard .empty paired = some d ∧
    d.statements = [s] ∧ s.opening.render = "builder.AddRedis(\"a\", \"b\")" ∧
      builderArgument paired "name" = .ok (.text "a\", \"b") ∧
      HasLiterals s.opening.render.toList [codeUnits ['a'], codeUnits ['b']] ∧
      ¬ HasLiterals s.opening.render.toList [codeUnits "a\", \"b".toList] := by
  have htext : "builder.AddRedis(\"a\", \"b\")".toList =
      "builder.AddRedis(".toList ++ '"' :: (['a'] ++ '"' :: furtherArguments [['b']]) := by decide
  have hliterals : HasLiterals "builder.AddRedis(\"a\", \"b\")".toList [codeUnits ['a'], codeUnits ['b']] := by
    rw [htext]
    exact (hasLiterals_call_iff (by decide) (by decide)).2 (by decide)
  refine ⟨_, _, rfl, rfl, rfl, builderArgument_name, hliterals, fun hone => ?_⟩
  exact absurd (hliterals.unique hone) (by decide)

end AppHost
end HostTopology
