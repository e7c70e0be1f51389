import HostTopology.Proofs.Literals
import HostTopology.Proofs.Recovery

/-!
# Quoting — the texts that an AppHost quotes

Names, environments and bind mounts go into the code of an AppHost between quotes, as they are. This
file takes the calls of a declaration apart into arguments, and asks what a compiler reads in those that
are quoted:

* `Call`, `Argument` — a call and its arguments, of which some are quoted;
* `configuredTexts` — what the declaration of an instance quotes, all of it and in order;
* `IsQuotable` — an instance whose texts can be quoted as they are;
* `quoted_denote_iff` — in generated code every quoted argument denotes its text exactly if all
  instances are quotable.
-/

namespace HostTopology
namespace AppHost

open Validation Catalog Naming Text

variable {r : Registry} {t : Topology} {i : ResourceInstance} {d : Declaration} {type : ResourceType}
  {category : ResourceCategory} {o : RenderOptions} {s : String}

/-! ## Calls and their arguments -/

/-- An argument is a piece of code, or a quoted text after the name of the parameter that it is for. -/
inductive Argument where
  | code (text : String)
  | quoted (label text : String)

namespace Argument

def render : Argument → String
  | code text => text
  | quoted label text => label ++ literal text

def quoted? : Argument → Option String
  | code _ => none
  | quoted _ text => some text

end Argument

structure Call where
  callee : String
  arguments : List Argument

namespace Call

def render (call : Call) : String :=
  call.callee ++ "(" ++ ", ".intercalate (call.arguments.map Argument.render) ++ ")"

/-- The texts between the quotes of a call. -/
def quotedTexts (call : Call) : List String :=
  call.arguments.filterMap Argument.quoted?

end Call

namespace OpeningCall

/-- What is quoted after the name. -/
def furtherTexts : OpeningCall → List String
  | nodeApp name => ["../" ++ name]
  | viteApp name => ["../" ++ name]
  | pythonApp name => ["../" ++ name, "main.py"]
  | container _ image => [image, "latest"]
  | _ => []

def toCall (call : OpeningCall) : Call where
  callee := call.receiver ++ "." ++ call.method ++
    ((call.className?.map fun className => "<Projects." ++ className ++ ">").getD "")
  arguments := (call.name :: call.furtherTexts).map (.quoted "")

theorem more_eq (call : OpeningCall) :
    call.more = String.join (call.furtherTexts.map fun text => ", " ++ literal text) := by
  cases call <;> simp [more, furtherTexts, String.append_assoc]

theorem render_toCall (call : OpeningCall) : call.toCall.render = call.render := by
  have harguments : ", ".intercalate (call.toCall.arguments.map Argument.render) = literal call.name ++ call.more := by
    simp [toCall, more_eq, String.intercalate_cons_eq_append_join, Argument.render, Function.comp_def]
  calc call.toCall.render
      = call.toCall.callee ++ "(" ++ (literal call.name ++ call.more) ++ ")" := by rw [Call.render, harguments]
    _ = call.render := call.render_eq.symm

theorem quotedTexts_toCall (call : OpeningCall) : call.toCall.quotedTexts = call.name :: call.furtherTexts := by
  simp [toCall, Call.quotedTexts, List.filterMap_map, Function.comp_def, Argument.quoted?]

end OpeningCall

namespace ChainCall

def toCall (c : ChainCall) : Call where
  callee := "." ++ c.method
  arguments := match c with
    | persistentLifetime => [.code "ContainerLifetime.Persistent"]
    | portFromEnv => [.quoted "env: " "PORT"]
    | endpoint none target => [.code ("targetPort: " ++ target)]
    | endpoint (some host) target => [.code ("port: " ++ host), .code ("targetPort: " ++ target)]
    | environment key value => [.quoted "" key, .quoted "" value]
    | bindMount source target => [.quoted "" source, .quoted "" target]
    | replicas count => [.code (toString count)]
    | reference name => [.code name]
    | waitFor name => [.code name]

theorem render_toCall (c : ChainCall) : c.toCall.render = c.render := by
  have hsep : ", targetPort: " = ", " ++ "targetPort: " := by decide
  rw [Call.render, ChainCall.render]
  cases c with
  | endpoint host target =>
    cases host with
    | none => simp [toCall, arguments, Argument.render, String.append_assoc]
    | some host => simp [toCall, arguments, Argument.render, hsep, String.append_assoc, -String.reduceAppend]
  | _ => simp [toCall, arguments, Argument.render, String.append_assoc]

def quotedTexts (c : ChainCall) : List String :=
  c.toCall.quotedTexts

end ChainCall

/-! ## What a declaration quotes -/

namespace Statement

/-- The calls of a statement, from the opening one on. -/
def calls (s : Statement) : List Call :=
  s.opening.toCall :: s.chain.map ChainCall.toCall

/-- A statement is its calls, one a line. -/
theorem render_eq_calls (indent : String) (s : Statement) : s.render indent =
    "var " ++ s.name ++ " = " ++ ("\n" ++ indent).intercalate (s.calls.map Call.render) ++ ";" := by
  have hcalls : s.calls.map Call.render = s.opening.render :: s.chain.map ChainCall.render := by
    simp [calls, OpeningCall.render_toCall, ChainCall.render_toCall, Function.comp_def]
  calc s.render indent
      = "var " ++ s.name ++ " = " ++ (s.opening.render
          ++ String.join ((s.chain.map ChainCall.render).map (("\n" ++ indent) ++ ·))) ++ ";" := by
        simp only [Statement.render, List.map_map, Function.comp_def, String.append_assoc]
    _ = "var " ++ s.name ++ " = "
          ++ ("\n" ++ indent).intercalate (s.opening.render :: s.chain.map ChainCall.render) ++ ";" := by
        simp only [String.intercalate_cons_eq_append_join]
    _ = "var " ++ s.name ++ " = " ++ ("\n" ++ indent).intercalate (s.calls.map Call.render) ++ ";" := by
        simp only [hcalls]

def quotedTexts (s : Statement) : List String :=
  s.calls.flatMap Call.quotedTexts

theorem quotedTexts_eq (s : Statement) : s.quotedTexts =
    s.opening.name :: s.opening.furtherTexts ++ s.chain.flatMap ChainCall.quotedTexts := by
  rw [quotedTexts, calls, List.flatMap_cons, OpeningCall.quotedTexts_toCall, List.flatMap_map]
  rfl

end Statement

def Declaration.quotedTexts (d : Declaration) : List String :=
  d.statements.flatMap Statement.quotedTexts

/-- What the form of an opening call quotes besides the name, and what its default calls quote. -/
def formTexts (i : ResourceInstance) : List String :=
  match shapeOf i.resourceType with
  | .nodeApp => ["../" ++ i.name]
  | .viteApp => ["../" ++ i.name, "PORT"]
  | .pythonApp => ["../" ++ i.name, "main.py"]
  | .container => [imageRegistry ++ containerImageName i.name, "latest"]
  | _ => []

/-- The texts that an instance is configured with, as far as its declaration shows them. -/
def configuredTexts (r : Registry) (i : ResourceInstance) : List String :=
  i.name :: formTexts i
    ++ (keptEnvVars i).flatMap (fun v => [v.key, v.value])
    ++ (keptVolumes i).flatMap (fun v => [v.source, v.target])
    ++ (r.databaseOf? i).toList

theorem quotedTexts_configChain : (configChain i category).flatMap ChainCall.quotedTexts =
    (defaultChain (shapeOf i.resourceType)).flatMap ChainCall.quotedTexts
      ++ (keptEnvVars i).flatMap (fun v => [v.key, v.value])
      ++ (keptVolumes i).flatMap (fun v => [v.source, v.target]) := by
  have hendpoint : ∀ host target, (ChainCall.endpoint host target).quotedTexts = [] := by
    intro host target
    cases host <;> rfl
  have hreplicas : (keptReplicas i).toList.flatMap (fun n => (ChainCall.replicas n).quotedTexts) = [] :=
    List.flatMap_eq_nil_iff.2 fun _ _ => rfl
  have hchain : (configChain i category).flatMap ChainCall.quotedTexts = _ := flatMap_configChain rfl hendpoint
  rwa [hreplicas, List.append_nil] at hchain

theorem texts_openingCall (i : ResourceInstance) (method name : String) :
    (openingCall i method name).furtherTexts
      ++ (defaultChain (shapeOf i.resourceType)).flatMap ChainCall.quotedTexts = formTexts i := by
  rw [openingCall, formTexts]
  cases shapeOf i.resourceType <;> rfl

/-- A declaration quotes the name of its instance and what goes with it, its environment, its bind
mounts, and its database. References are not quoted. -/
theorem quotedTexts_of_declare? (h : declare? r t i = some d) : d.quotedTexts = configuredTexts r i := by
  have hreferences : ∀ id, (referenceChain r t id).flatMap ChainCall.quotedTexts = [] := by
    intro id
    rw [List.flatMap_eq_nil_iff]
    exact forall_mem_referenceChain (fun _ => rfl) fun _ => rfl
  obtain ⟨type, -, hstatements⟩ := declare?_cases h
  have hform := texts_openingCall i type.builder.name (variableName i.name)
  rw [configuredTexts, ← hform]
  rcases hstatements with ⟨database, hdatabase, rfl⟩ | ⟨hnone, rfl⟩
  · have hname : ∀ server, (OpeningCall.database server database).name = database := fun _ => rfl
    have hfurther : ∀ server, (OpeningCall.database server database).furtherTexts = [] := fun _ => rfl
    simp [Declaration.quotedTexts, Statement.quotedTexts_eq, name_openingCall, quotedTexts_configChain,
      hreferences, hdatabase, hname, hfurther]
  · simp [Declaration.quotedTexts, Statement.quotedTexts_eq, name_openingCall, quotedTexts_configChain,
      hreferences, hnone]

/-! ## Texts that can be quoted -/

/-- An instance whose texts can be quoted as they are. Validation lets no more into a name than a line
feed at its end, but it lets everything into environments and bind mounts. -/
structure IsQuotable (r : Registry) (i : ResourceInstance) : Prop where
  name : '\n' ∉ i.name.toList
  database : ∀ database, r.databaseOf? i = some database → '\n' ∉ database.toList
  envVars : ∀ v ∈ i.config.envVars, v.key ≠ "" → v.value ≠ "" → IsVerbatim v.key ∧ IsVerbatim v.value
  volumes : ∀ v ∈ i.config.volumes, v.source ≠ "" → v.target ≠ "" → IsVerbatim v.source ∧ IsVerbatim v.target

theorem isVerbatim_append {s u : String} : IsVerbatim (s ++ u) ↔ IsVerbatim s ∧ IsVerbatim u := by
  simp only [IsVerbatim, String.toList_append, List.mem_append, or_imp, forall_and]

theorem isVerbatim_of_isNameChar {c : Char} (hc : isNameChar c = true) (hbreak : c ≠ '\n') :
    isVerbatim c = true := by
  have hall : ∀ n : Fin 128, isNameChar (Char.ofNat n) = true →
      Char.ofNat n ≠ '\n' → isVerbatim (Char.ofNat n) = true := by decide
  exact of_isNameChar (P := fun c => c ≠ '\n' → isVerbatim c = true) hall hc hbreak

theorem isVerbatim_iff_of_isIdentifier (h : isIdentifier s = true) : IsVerbatim s ↔ '\n' ∉ s.toList := by
  constructor
  · intro hverbatim hmem
    exact absurd (hverbatim '\n' hmem) (by decide)
  · intro hbreak c hc
    refine isVerbatim_of_isNameChar (isNameChar_of_isIdentifier h c hc) ?_
    rintro rfl
    exact hbreak hc

theorem isVerbatim_containerImageName (name : String) : IsVerbatim (containerImageName name) := by
  intro c hc
  refine isVerbatim_of_isNameChar (OpeningCall.isNameChar_containerImageName name c hc) ?_
  rintro rfl
  rcases mem_containerImageName hc with h | h
  · exact absurd h (by decide)
  · exact absurd h (by decide)

/-- What goes with a name is no harder to quote than the name. -/
theorem isVerbatim_formTexts (h : IsVerbatim i.name) : ∀ s ∈ formTexts i, IsVerbatim s := by
  have hpath : IsVerbatim ("../" ++ i.name) := isVerbatim_append.2 ⟨by decide, h⟩
  have himage : IsVerbatim (imageRegistry ++ containerImageName i.name) :=
    isVerbatim_append.2 ⟨by decide, isVerbatim_containerImageName i.name⟩
  have hfixed : IsVerbatim "PORT" ∧ IsVerbatim "main.py" ∧ IsVerbatim "latest" := by decide
  rw [formTexts]
  cases shapeOf i.resourceType <;> simp [hpath, himage, hfixed]

theorem verbatim_configuredTexts_iff (hname : isIdentifier i.name = true)
    (hdatabase : ∀ database, r.databaseOf? i = some database → isIdentifier database = true) :
    (∀ s ∈ configuredTexts r i, IsVerbatim s) ↔ IsQuotable r i := by
  -- the parts of the list are the fields of the structure
  have hnames : (∀ s ∈ i.name :: formTexts i, IsVerbatim s) ↔ '\n' ∉ i.name.toList := by
    rw [List.forall_mem_cons, ← isVerbatim_iff_of_isIdentifier hname]
    exact and_iff_left_of_imp isVerbatim_formTexts
  have henv : (∀ s ∈ (keptEnvVars i).flatMap (fun v => [v.key, v.value]), IsVerbatim s) ↔
      ∀ v ∈ i.config.envVars, v.key ≠ "" → v.value ≠ "" → IsVerbatim v.key ∧ IsVerbatim v.value := by
    rw [List.forall_mem_flatMap]
    simp [keptEnvVars, present]
  have hvolumes : (∀ s ∈ (keptVolumes i).flatMap (fun v => [v.source, v.target]), IsVerbatim s) ↔
      ∀ v ∈ i.config.volumes, v.source ≠ "" → v.target ≠ "" → IsVerbatim v.source ∧ IsVerbatim v.target := by
    rw [List.forall_mem_flatMap]
    simp [keptVolumes, present]
  have hdatabases : (∀ s ∈ (r.databaseOf? i).toList, IsVerbatim s) ↔
      ∀ database, r.databaseOf? i = some database → '\n' ∉ database.toList := by
    simp only [Option.mem_toList]
    exact forall₂_congr fun database h => isVerbatim_iff_of_isIdentifier (hdatabase database h)
  simp only [configuredTexts, List.forall_mem_append, hnames, henv, hvolumes, hdatabases]
  constructor
  · rintro ⟨⟨⟨hname, henv⟩, hvolumes⟩, hdatabase⟩
    exact ⟨hname, hdatabase, henv, hvolumes⟩
  · rintro ⟨hname, hdatabase, henv, hvolumes⟩
    exact ⟨⟨⟨hname, henv⟩, hvolumes⟩, hdatabase⟩

end AppHost

/-! ## Generated code -/

open AppHost Validation Catalog

variable {r : Registry} {t : Topology} {i : ResourceInstance} {o : RenderOptions} {a : Artifacts}

theorem Topology.mem_of_mem_ordered (hi : i ∈ t.sequence.ordered) : i ∈ t.instances :=
  List.mem_reverse.1 (List.mem_of_find?_eq_some (findLast?_of_mem_ordered hi))

/-- Generated code consists of calls, and their quoted arguments are the configured texts. Every one of them
denotes its text exactly if the instances that are declared are quotable. -/
theorem quoted_denote_iff (hok : t.compile r o = .ok a) (hblocked : a.isBlocked = false) :
    a.appHost = AppHost.render r t o t.sequence.ordered ∧
      (∀ i ∈ t.sequence.ordered, ∀ d, declare? r t i = some d →
        (∀ s ∈ d.statements, s.render o.indent =
          "var " ++ s.name ++ " = " ++ ("\n" ++ o.indent).intercalate (s.calls.map Call.render) ++ ";") ∧
        d.quotedTexts = configuredTexts r i) ∧
        ((∀ i ∈ t.sequence.ordered, ∀ d, declare? r t i = some d →
            ∀ s ∈ d.quotedTexts, Denotes (literal s) (codeUnits s.toList)) ↔
          ∀ i ∈ t.sequence.ordered, (r.find? i.resourceType).isSome → IsQuotable r i) := by
  rcases compile_unblocked_iff.1 ⟨hok, hblocked⟩ with ⟨hfaultless, -, rfl⟩
  refine ⟨rfl, fun i _ d hd => ⟨fun s _ => s.render_eq_calls o.indent, quotedTexts_of_declare? hd⟩,
    forall₂_congr fun i hi => ?_⟩
  have hmem := Topology.mem_of_mem_ordered hi
  have htexts := verbatim_configuredTexts_iff (hfaultless.isIdentifier_name hmem)
    fun database => hfaultless.isIdentifier_database hmem
  simp only [denotes_literal_iff]
  -- an instance is declared exactly if its type is known
  constructor
  · intro h hknown
    rcases Option.isSome_iff_exists.1 (hfaultless.isSome_declare? hmem hknown) with ⟨d, hd⟩
    rw [← htexts, ← quotedTexts_of_declare? hd]
    exact h d hd
  · intro h d hd
    rw [quotedTexts_of_declare? hd, htexts]
    refine h ?_
    rw [declare?] at hd
    split at hd
    · cases hd
    · rcases Option.map_eq_some_iff.1 hd with ⟨type, htype, -⟩
      rw [htype, Option.isSome_some]

/-- A cache that is told how to greet. -/
def greeting (value : String) : Topology where
  instances := [⟨"cache", "redis", "cache", none, ⟨[⟨"GREETING", value⟩], [], [⟨"./data", "/data"⟩], none, none⟩⟩]
  connections := []

theorem greeting_compile : ∀ value ∈ ["hello", "say \"hi\""],
    (greeting value).compile .standard .standard =
      .ok (.ofOrdered .standard .standard (greeting value) (greeting value).sequence.ordered) := by
  have hpasses : ∀ value ∈ ["hello", "say \"hi\""], PassesRules .standard (greeting value) ∧
      Writable .standard .standard (greeting value) (greeting value).sequence.ordered := by decide
  intro value hvalue
  obtain ⟨hrules, hwritable⟩ := hpasses value hvalue
  exact compile_of_passesRules hrules acyclic_nil hwritable

theorem greeting_denoted : ∃ a, (greeting "hello").compile .standard .standard = .ok a ∧ a.isBlocked = false ∧
    ∀ i ∈ (greeting "hello").sequence.ordered, ∀ d, declare? .standard (greeting "hello") i = some d →
      ∀ s ∈ d.quotedTexts, Denotes (literal s) (codeUnits s.toList) := by
  have hok := greeting_compile "hello" (by decide)
  have hquotable : ∀ i ∈ (greeting "hello").instances, IsQuotable .standard i := by
    intro i hi
    have hdatabase : ∀ i ∈ (greeting "hello").instances, Registry.standard.databaseOf? i = none := by
      decide
    constructor
    case database => simp [hdatabase i hi]
    all_goals
      revert i
      decide
  obtain ⟨-, -, h⟩ := quoted_denote_iff hok isBlocked_ofOrdered
  exact ⟨_, hok, isBlocked_ofOrdered, h.2 fun i hi _ => hquotable i (Topology.mem_of_mem_ordered hi)⟩

/-- Quotes inside a value are not escaped: they end the literal, and what stands between them is code. -/
theorem greeting_not_denoted : ∃ a, (greeting "say \"hi\"").compile .standard .standard = .ok a ∧
    a.isBlocked = false ∧ ∃ i ∈ (greeting "say \"hi\"").sequence.ordered,
      ∃ d, declare? .standard (greeting "say \"hi\"") i = some d ∧ "say \"hi\"" ∈ d.quotedTexts ∧
        ∀ units, ¬ Denotes (literal "say \"hi\"") units := by
  have hordered : (greeting "say \"hi\"").sequence.ordered = (greeting "say \"hi\"").instances := by
    decide
  have hdeclared : ∀ i ∈ (greeting "say \"hi\"").instances,
      (declare? .standard (greeting "say \"hi\"") i).isSome = true ∧
        "say \"hi\"" ∈ configuredTexts .standard i := by decide
  have hfirst : ∃ i, i ∈ (greeting "say \"hi\"").instances := ⟨_, List.mem_cons_self⟩
  obtain ⟨i, hi⟩ := hfirst
  obtain ⟨hsome, htext⟩ := hdeclared i hi
  obtain ⟨d, hd⟩ := Option.isSome_iff_exists.1 hsome
  rw [← quotedTexts_of_declare? hd] at htext
  refine ⟨_, greeting_compile _ (by decide), isBlocked_ofOrdered, i, hordered ▸ hi, d, hd, htext, ?_⟩
  have hvalue : "say \"hi\"".toList = "say ".toList ++ '"' :: "hi\"".toList := by decide
  exact not_denotes_of_quote hvalue (by decide)

end HostTopology
