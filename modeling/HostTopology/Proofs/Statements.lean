import HostTopology.Proofs.Chain
import HostTopology.Proofs.Comments

/-!
# Statements — what is read in the statements of an AppHost

All opening calls have one form: a receiver, a method, perhaps a class name, and arguments of which
the first is the name. For a statement of plain parts this file tells what each scan reads in it.

* `resourceCall?`, `databaseCall?` — the declaration that a statement is read as;
* `all_declaration`, `all_databaseDeclaration` — these, and nothing else, are found;
* `owner_statement`, `Reads.all_statement` — its variable, and the calls that are chained to it.
-/

namespace HostTopology
namespace AppHost

open Text Scan

namespace OpeningCall

/-! ## The form of opening calls -/

def receiver : OpeningCall → String
  | database server _ => server
  | _ => "builder"

def method : OpeningCall → String
  | generic method _ => method
  | project .. => "AddProject"
  | nodeApp _ => "AddNodeApp"
  | viteApp _ => "AddViteApp"
  | pythonApp _ => "AddPythonApp"
  | container .. => "AddContainer"
  | database .. => "AddDatabase"

def className? : OpeningCall → Option String
  | project className _ => some className
  | _ => none

def name : OpeningCall → String
  | generic _ name => name
  | project _ name => name
  | nodeApp name => name
  | viteApp name => name
  | pythonApp name => name
  | container name _ => name
  | database _ name => name

/-- The arguments after the name. -/
def more : OpeningCall → String
  | nodeApp name => ", " ++ literal ("../" ++ name)
  | viteApp name => ", " ++ literal ("../" ++ name)
  | pythonApp name => ", " ++ literal ("../" ++ name) ++ ", " ++ literal "main.py"
  | container _ image => ", " ++ literal image ++ ", " ++ literal "latest"
  | _ => ""

/-- The class of a project stands between brackets. -/
def typeText (call : OpeningCall) : List Char :=
  match call.className? with
  | some className => '<' :: ("Projects.".toList ++ className.toList ++ ['>'])
  | none => []

def arguments (call : OpeningCall) : List Char :=
  (literal call.name).toList ++ call.more.toList

/-- The opening call with its parts named. -/
theorem render_eq (call : OpeningCall) : call.render =
    call.receiver ++ "." ++ call.method ++ ((call.className?.map fun className =>
      "<Projects." ++ className ++ ">").getD "") ++ "(" ++ (literal call.name ++ call.more) ++ ")" := by
  cases call with
  | generic method name =>
    have hopen : "builder." = "builder" ++ "." := by decide
    change "builder." ++ method ++ "(" ++ literal name ++ ")" =
      "builder" ++ "." ++ method ++ "" ++ "(" ++ (literal name ++ "") ++ ")"
    rw [hopen, String.append_empty, String.append_empty]
  | project className name =>
    have hopen : "builder.AddProject<Projects." = "builder" ++ "." ++ "AddProject" ++ "<Projects." := by decide
    have hclose : ">(" = ">" ++ "(" := by decide
    change "builder.AddProject<Projects." ++ className ++ ">(" ++ literal name ++ ")" =
      "builder" ++ "." ++ "AddProject" ++ ("<Projects." ++ className ++ ">") ++ "(" ++ (literal name ++ "") ++ ")"
    rw [hopen, hclose, String.append_empty]
    simp only [String.append_assoc]
  | nodeApp name =>
    have hopen : "builder.AddNodeApp(" = "builder" ++ "." ++ "AddNodeApp" ++ "" ++ "(" := by decide
    change "builder.AddNodeApp(" ++ literal name ++ ", " ++ literal ("../" ++ name) ++ ")" =
      "builder" ++ "." ++ "AddNodeApp" ++ "" ++ "(" ++ (literal name ++ (", " ++ literal ("../" ++ name))) ++ ")"
    rw [hopen]
    simp only [String.append_assoc]
  | viteApp name =>
    have hopen : "builder.AddViteApp(" = "builder" ++ "." ++ "AddViteApp" ++ "" ++ "(" := by decide
    change "builder.AddViteApp(" ++ literal name ++ ", " ++ literal ("../" ++ name) ++ ")" =
      "builder" ++ "." ++ "AddViteApp" ++ "" ++ "(" ++ (literal name ++ (", " ++ literal ("../" ++ name))) ++ ")"
    rw [hopen]
    simp only [String.append_assoc]
  | pythonApp name =>
    have hopen : "builder.AddPythonApp(" = "builder" ++ "." ++ "AddPythonApp" ++ "" ++ "(" := by decide
    change "builder.AddPythonApp(" ++ literal name ++ ", " ++ literal ("../" ++ name) ++ ", "
        ++ literal "main.py" ++ ")" =
      "builder" ++ "." ++ "AddPythonApp" ++ "" ++ "("
        ++ (literal name ++ (", " ++ literal ("../" ++ name) ++ ", " ++ literal "main.py")) ++ ")"
    rw [hopen]
    simp only [String.append_assoc]
  | container name image =>
    have hopen : "builder.AddContainer(" = "builder" ++ "." ++ "AddContainer" ++ "" ++ "(" := by decide
    change "builder.AddContainer(" ++ literal name ++ ", " ++ literal image ++ ", " ++ literal "latest" ++ ")" =
      "builder" ++ "." ++ "AddContainer" ++ "" ++ "("
        ++ (literal name ++ (", " ++ literal image ++ ", " ++ literal "latest")) ++ ")"
    rw [hopen]
    simp only [String.append_assoc]
  | database server name =>
    have hopen : ".AddDatabase(" = "." ++ "AddDatabase" ++ "" ++ "(" := by decide
    change server ++ ".AddDatabase(" ++ literal name ++ ")" =
      server ++ "." ++ "AddDatabase" ++ "" ++ "(" ++ (literal name ++ "") ++ ")"
    rw [hopen]
    simp only [String.append_assoc, String.empty_append]

theorem toList_render (call : OpeningCall) : call.render.toList =
    call.receiver.toList ++ ('.' :: call.method.toList ++ (call.typeText ++
      ('(' :: (call.arguments ++ [')'])))) := by
  have hdot : ".".toList = ['.'] := rfl
  have hopen : "(".toList = ['('] := rfl
  have hclose : ")".toList = [')'] := rfl
  have htype : ((call.className?.map fun className => "<Projects." ++ className ++ ">").getD "").toList =
      call.typeText := by
    rw [typeText]
    cases call.className? with
    | none => rfl
    | some className =>
      have hless : "<Projects.".toList = '<' :: "Projects.".toList := rfl
      have hgreater : ">".toList = ['>'] := rfl
      simp only [Option.map_some, Option.getD_some, String.toList_append, hless, hgreater, List.cons_append]
  rw [render_eq]
  simp only [String.toList_append, htype, hdot, hopen, hclose, arguments, List.append_assoc,
    List.cons_append, List.nil_append]

/-- Arguments after the name that do not disturb the reader. -/
structure IsFurther (more : List Char) : Prop where
  chars : ∀ c ∈ more, c ≠ '(' ∧ c ≠ '<' ∧ c ≠ ';'
  unmarked : contains persistentMark.toList more = false
  tidy : ∀ ys, Tidy more (')' :: ys)

/-- An opening call of such parts. -/
structure IsPlain (call : OpeningCall) : Prop where
  receiver : IsVariable call.receiver
  method : ∃ suffix, call.method = "Add" ++ suffix ∧ IsVariable suffix
  className : ∀ className ∈ call.className?, IsVariable className
  name_ne_empty : call.name ≠ ""
  name : ∀ c ∈ call.name.toList, isNameChar c = true
  more : IsFurther call.more.toList

/-- Only a project has a class name. -/
theorem className?_eq_none {call : OpeningCall} (h : call.method = "AddDatabase") :
    call.className? = none := by
  cases call with
  | project className name =>
    have hne : "AddProject" ≠ "AddDatabase" := by decide
    exact absurd h hne
  | _ => rfl

end OpeningCall

/-! ## Statements as text -/

variable {α : Type} {p : Scan α} {T : List Char → Prop} {name gap indent ys : List Char} {s : Statement}
  {call : OpeningCall}

/-- A statement up to its semicolon. -/
def stem (indent : List Char) (s : Statement) : List Char :=
  "var ".toList ++ (s.name.toList ++ (" = ".toList ++ (s.opening.render.toList ++
    s.chain.flatMap (callText indent))))

theorem toList_statement_render (indent : String) (s : Statement) :
    (s.render indent).toList = stem indent.toList s ++ [';'] := by
  have hjoin : (String.join (s.chain.map fun c => "\n" ++ indent ++ c.render)).toList =
      s.chain.flatMap (callText indent.toList) := by
    rw [String.toList_join, List.flatMap_map]
    refine List.flatMap_congr fun c _ => ?_
    simp [callText]
  rw [Statement.render, stem]
  simp only [String.toList_append, hjoin, List.append_assoc]
  rfl

/-- A statement that assigns a plain opening call to a variable, whatever is chained to it. -/
structure Statement.IsFramed (s : Statement) : Prop where
  name : IsVariable s.name
  opening : s.opening.IsPlain

structure Statement.IsPlain (s : Statement) : Prop extends s.IsFramed where
  chain : ∀ c ∈ s.chain, c.IsPlain

/-- A call that stays on its line and declares nothing. -/
structure ChainCall.IsInert (c : ChainCall) : Prop where
  line : '\n' ∉ c.arguments.toList
  resources : c.IsSilent declaration
  databases : c.IsSilent databaseDeclaration

theorem ChainCall.IsPlain.inert {c : ChainCall} (hc : c.IsPlain) : c.IsInert where
  line hmem := absurd (hc.argument _ hmem) (by decide)
  resources := hc.silent assigns_declaration.opens
  databases := hc.silent assigns_databaseDeclaration.opens

/-- A statement that declares nothing but what it opens with. -/
structure Statement.IsInert (s : Statement) : Prop extends s.IsFramed where
  chain : ∀ c ∈ s.chain, c.IsInert

theorem Statement.IsPlain.inert (hs : s.IsPlain) : s.IsInert :=
  ⟨hs.toIsFramed, fun c hc => (hs.chain c hc).inert⟩

/-- What stands between statements. -/
def IsGap (gap : List Char) : Prop :=
  ∀ c ∈ gap, c = '\n'

instance (gap : List Char) : Decidable (IsGap gap) :=
  inferInstanceAs (Decidable (∀ c ∈ gap, c = '\n'))

/-! ## Stretches of an opening call -/

theorem isAlphanum_openingMethod (h : call.IsPlain) : ∀ c ∈ call.method.toList, c.isAlphanum = true := by
  rcases h.method with ⟨suffix, hmethod, hsuffix⟩
  intro c hc
  rw [hmethod, String.toList_append] at hc
  rcases List.mem_append.1 hc with hc | hc
  · have hadd : ∀ c ∈ "Add".toList, c.isAlphanum = true := by decide
    exact hadd c hc
  · exact hsuffix.isAlphanum c hc

theorem clear_openingMethod (h : call.IsPlain) : Clear (' ' :: (call.receiver.toList ++ '.' :: call.method.toList)) := by
  have hmethod := clear_of_isAlphanum (isAlphanum_openingMethod h)
  have hreceiver := clear_of_isAlphanum h.receiver.isAlphanum
  exact clear_cons.2 ⟨by decide, hreceiver.append (clear_cons.2 ⟨by decide, hmethod⟩)⟩

theorem not_mem_openingName (h : call.IsPlain) {ch : Char} (hch : isNameChar ch = false) :
    ch ∉ call.name.toList := by
  intro hmem
  rw [h.name ch hmem] at hch
  cases hch

theorem not_mem_openingArguments (h : call.IsPlain) : '(' ∉ call.arguments ∧ '<' ∉ call.arguments := by
  have hname : ∀ ch : Char, isNameChar ch = false → ch ∉ call.name.toList :=
    fun ch hch => not_mem_openingName h hch
  simp only [OpeningCall.arguments, literal, String.toList_append, List.mem_append, not_or]
  exact ⟨⟨⟨⟨by decide, hname _ (by decide)⟩, by decide⟩, fun hmem => (h.more.chars _ hmem).1 rfl⟩,
    ⟨⟨⟨by decide, hname _ (by decide)⟩, by decide⟩, fun hmem => (h.more.chars _ hmem).2.1 rfl⟩⟩

theorem not_mem_typeText (h : call.IsPlain) {className : String} (hclass : className ∈ call.className?) :
    '(' ∉ "Projects.".toList ++ className.toList ∧ '<' ∉ "Projects.".toList ++ className.toList := by
  have hvariable := (h.className className hclass).isAlphanum
  simp only [List.mem_append, not_or]
  exact ⟨⟨by decide, not_mem_of_isAlphanum hvariable (by decide)⟩,
    ⟨by decide, not_mem_of_isAlphanum hvariable (by decide)⟩⟩

/-- After the method the class name and the arguments hold nothing. -/
theorem Opens.skips_arguments (h : Opens p) (hopen : ∀ ys, Skips p ['('] ys) (hcall : call.IsPlain)
    (ys : List Char) :
    ∃ d rest, call.typeText ++ ('(' :: (call.arguments ++ [')'])) = d :: rest ∧ isDelimiter d = true ∧
      (d = '(' ∨ d = '<') ∧ Skips p rest ys := by
  have harguments : Skips p (call.arguments ++ [')']) ys :=
    h.skips (not_mem_openingArguments hcall) (by decide) ys
  rw [OpeningCall.typeText]
  cases hclass : call.className? with
  | none => exact ⟨'(', call.arguments ++ [')'], rfl, by decide, Or.inl rfl, harguments⟩
  | some className =>
    refine ⟨'<', ("Projects.".toList ++ className.toList ++ ['>']) ++ (['('] ++ (call.arguments ++ [')'])),
      by simp, by decide, Or.inr rfl, ?_⟩
    have hskip := h.skips (not_mem_typeText hcall hclass) (by decide : isClosing '>' = true)
      (['('] ++ (call.arguments ++ [')']) ++ ys)
    exact Skips.append hskip (Skips.append (hopen _) harguments)

theorem Assigns.skips_open (h : Assigns p T) (ys : List Char) : Skips p ['('] ys := by
  have hempty : Clear [] := fun c hc => absurd hc List.not_mem_nil
  have hskip := h.skips_of_not_mem hempty (by decide : isDelimiter '(' = true) List.not_mem_nil ys
  exact hskip

theorem Calls.skips_open {name : List Char} (h : Calls p ('.' :: name)) (ys : List Char) :
    Skips p ['('] ys :=
  h.skips_of_not_mem (by decide) ys

/-! ## Declarations in a statement -/

/-- The resource that a statement is read as. -/
def Statement.resourceCall? (s : Statement) : Option ResourceCall :=
  if s.opening.receiver = "builder" then some ⟨s.name, s.opening.method, s.opening.name⟩ else none

def Statement.databaseCall? (s : Statement) : Option DatabaseCall :=
  if s.opening.method = "AddDatabase" then some ⟨s.name, s.opening.receiver, s.opening.name⟩ else none

theorem binding_append {s : String} (hs : IsVariable s) (ys : List Char) :
    binding ("var ".toList ++ (s.toList ++ (" = ".toList ++ ys))) = some (s, ' ' :: ys) := by
  have hspace : ∀ c ∈ " ".toList, isBlank c = true := by decide
  have hstart : Stops isBlank (s.toList ++ (" ".toList ++ ("=".toList ++ ' ' :: ys))) :=
    stops_append hs.toList_ne_nil hs.isBlank _
  have hword : Stops isWord (" ".toList ++ ("=".toList ++ ' ' :: ys)) := stops_append (by decide) (by decide) _
  have hsign : Stops isBlank ("=".toList ++ ' ' :: ys) := stops_append (by decide) (by decide) _
  have htext : "var ".toList ++ (s.toList ++ (" = ".toList ++ ys)) =
      "var".toList ++ (" ".toList ++ (s.toList ++ (" ".toList ++ ("=".toList ++ ' ' :: ys)))) := rfl
  rw [htext, binding, bind_apply (either_of_left (literal_append "var" _)),
    bind_apply (someBlanks_append (by decide) hspace hstart),
    bind_apply (word_append hs.ne_empty hs.isWord hword), bind_apply (blanks_append hspace hsign),
    bind_apply (literal_append "=" _)]
  rfl

theorem Assigns.skips_chain (h : Assigns p T) (hindent : IsIndent indent) {chain : List ChainCall}
    (hchain : ∀ c ∈ chain, c.IsSilent p) (ys : List Char) :
    Skips p (chain.flatMap (callText indent) ++ [';']) ys := by
  induction chain with
  | nil =>
    have hnil : '(' ∉ ([] : List Char) ∧ '<' ∉ ([] : List Char) := ⟨List.not_mem_nil, List.not_mem_nil⟩
    exact h.opens.skips hnil (by decide) ys
  | cons c chain ih =>
    have htail := ih fun c' hc' => hchain c' (List.mem_cons_of_mem c hc')
    rw [List.flatMap_cons, List.append_assoc]
    exact Skips.append (h.skips_call hindent (hchain c List.mem_cons_self) _) htail

/-- What declarations pass over after the name of a resource. -/
theorem Assigns.skips_rest (h : Assigns p T) (hindent : IsIndent indent) (hs : s.IsFramed)
    (hchain : ∀ c ∈ s.chain, c.IsSilent p) (ys : List Char) :
    Skips p ((s.opening.more.toList ++ [')']) ++ (s.chain.flatMap (callText indent) ++ [';'])) ys := by
  refine Skips.append (h.opens.skips ?_ (by decide) _) (h.skips_chain hindent hchain ys)
  exact ⟨fun hmem => (hs.opening.more.chars _ hmem).1 rfl, fun hmem => (hs.opening.more.chars _ hmem).2.1 rfl⟩

/-- A statement up to the end of the name. -/
def start (s : Statement) : List Char :=
  "var ".toList ++ (s.name.toList ++ (" = ".toList ++ (s.opening.receiver.toList ++
    ('.' :: s.opening.method.toList ++ (s.opening.typeText ++ ('(' :: (literal s.opening.name).toList))))))

theorem stem_eq_start (indent : List Char) (s : Statement) : stem indent s =
    start s ++ (s.opening.more.toList ++ ')' :: s.chain.flatMap (callText indent)) := by
  simp only [stem, start, OpeningCall.toList_render, OpeningCall.arguments, List.append_assoc,
    List.cons_append, List.nil_append]

theorem stem_append (indent : List Char) (s : Statement) (ys : List Char) :
    stem indent s ++ ';' :: ys = start s ++
      (((s.opening.more.toList ++ [')']) ++ (s.chain.flatMap (callText indent) ++ [';'])) ++ ys) := by
  simp only [stem_eq_start, List.append_assoc, List.cons_append, List.nil_append]

theorem IsGap.isBlank (h : IsGap gap) : ∀ c ∈ gap, Text.isBlank c = true := by
  intro c hc
  rw [h c hc]
  decide

/-- A statement that `p` reads. -/
theorem Assigns.all_of_start (h : Assigns p T) (hgap : IsGap gap) (hindent : IsIndent indent)
    (hs : s.IsFramed) (hchain : ∀ c ∈ s.chain, c.IsSilent p) {a : α}
    (hread : ∀ zs, p (start s ++ zs) = some (a, zs)) (ys : List Char) :
    all p (gap ++ (stem indent s ++ ';' :: ys)) = a :: all p ys := by
  have hne : start s ≠ [] := List.cons_ne_nil _ _
  have hrest := h.skips_rest hindent hs hchain ys
  rw [all_of_skips (h.skips_of_isBlank hgap.isBlank _), stem_append, all_of_hit hne (hread _),
    all_of_skips hrest]

/-- A statement that assigns another text is passed over. -/
theorem Assigns.all_of_not (h : Assigns p T) (hgap : IsGap gap) (hindent : IsIndent indent)
    (hs : s.IsFramed) (hchain : ∀ c ∈ s.chain, c.IsSilent p)
    (hT : ¬ T (' ' :: (s.opening.receiver.toList ++ '.' :: s.opening.method.toList)))
    (ys : List Char) : all p (gap ++ (stem indent s ++ ';' :: ys)) = all p ys := by
  obtain ⟨d, rest, htext, hd, -, hskip⟩ := h.opens.skips_arguments h.skips_open hs.opening
    ((s.chain.flatMap (callText indent) ++ [';']) ++ ys)
  -- up to its first bracket the statement has one equality sign
  have hname := clear_of_isAlphanum hs.name.isAlphanum
  have hleft : Clear ("var ".toList ++ (s.name.toList ++ [' '])) := by
    have hvar : Clear "var ".toList := by decide
    have hspace : Clear [' '] := by decide
    exact hvar.append (hname.append hspace)
  have hlsign : '=' ∉ "var ".toList ++ (s.name.toList ++ [' ']) := by
    simp only [List.mem_append, not_or]
    exact ⟨by decide, not_mem_of_isAlphanum hs.name.isAlphanum (by decide), by decide⟩
  have hrsign : '=' ∉ ' ' :: (s.opening.receiver.toList ++ '.' :: s.opening.method.toList) := by
    simp only [List.mem_cons, List.mem_append, not_or]
    exact ⟨by decide, not_mem_of_isAlphanum hs.opening.receiver.isAlphanum (by decide), by decide,
      not_mem_of_isAlphanum (isAlphanum_openingMethod hs.opening) (by decide)⟩
  -- no text of this kind is assigned, so nothing begins before the bracket
  have hseg := h.skips_of_not hleft (clear_openingMethod hs.opening) hd hlsign hrsign hT
    (rest ++ ((s.chain.flatMap (callText indent) ++ [';']) ++ ys))
  have hstem : stem indent s ++ ';' :: ys = ((("var ".toList ++ (s.name.toList ++ [' '])) ++
      '=' :: (' ' :: (s.opening.receiver.toList ++ '.' :: s.opening.method.toList))) ++ [d]) ++
        (rest ++ ((s.chain.flatMap (callText indent) ++ [';']) ++ ys)) := by
    have hsign : " = ".toList = [' ', '=', ' '] := rfl
    simp only [stem, OpeningCall.toList_render, htext, hsign, List.append_assoc, List.cons_append,
      List.nil_append]
  rw [all_of_skips (h.skips_of_isBlank hgap.isBlank _), hstem, all_of_skips hseg, all_of_skips hskip,
    all_of_skips (h.skips_chain hindent hchain ys)]

/-- The name, between its quotes. -/
theorem quotedSome_name (h : call.IsPlain) (zs : List Char) :
    quotedSome ((literal call.name).toList ++ zs) = some (call.name, zs) := by
  have hquote : '"' ∉ call.name.toList := not_mem_openingName h (by decide)
  have htext : (literal call.name).toList ++ zs =
      "\"".toList ++ (call.name.toList ++ ("\"".toList ++ zs)) := by
    simp only [literal, String.toList_append, List.append_assoc]
  rw [htext, quotedSome_append h.name_ne_empty hquote]

theorem openArguments_name (call : OpeningCall) (zs : List Char) :
    openArguments ('(' :: ((literal call.name).toList ++ zs)) = some ((), (literal call.name).toList ++ zs) := by
  have hstop : Stops isBlank ((literal call.name).toList ++ zs) := by
    have htext : (literal call.name).toList ++ zs = '"' :: (call.name.toList ++ ("\"".toList ++ zs)) := by
      simp only [literal, String.toList_append, List.append_assoc]
      rfl
    rw [htext]
    exact stops_cons.2 (by decide)
  have hopen := openArguments_append hstop
  exact hopen

theorem blanks_space (hstop : Stops isBlank ys) : blanks (' ' :: ys) = some ((), ys) := by
  have hspace : ∀ c ∈ [' '], isBlank c = true := by decide
  have h := blanks_append hspace hstop
  exact h

/-- A class name may stand before the arguments. -/
theorem perhaps_typeText (h : call.IsPlain) (zs : List Char) :
    perhaps typeArgument (call.typeText ++ '(' :: zs) = some ((), '(' :: zs) := by
  rw [OpeningCall.typeText, perhaps]
  cases hclass : call.className? with
  | none =>
    have hnone : typeArgument ('(' :: zs) = none := rfl
    exact either_of_right hnone
  | some className =>
    -- the class name goes up to the first `>`
    have hvariable := (h.className className hclass).isAlphanum
    have hall : ∀ c ∈ "Projects.".toList ++ className.toList, decide (c ≠ '>') = true := by
      intro c hc
      refine decide_eq_true ?_
      rintro rfl
      rcases List.mem_append.1 hc with hc | hc
      · exact absurd hc (by decide)
      · exact absurd (hvariable _ hc) (by decide)
    have hne : "Projects.".toList ++ className.toList ≠ [] := List.cons_ne_nil _ _
    have hstop : Stops (fun c => decide (c ≠ '>')) (">".toList ++ '(' :: zs) :=
      stops_append (by decide) (by decide) _
    have htext : ('<' :: ("Projects.".toList ++ className.toList ++ ['>'])) ++ '(' :: zs =
        "<".toList ++ (("Projects.".toList ++ className.toList) ++ (">".toList ++ '(' :: zs)) := by
      have hless : "<".toList = ['<'] := rfl
      have hgreater : ">".toList = ['>'] := rfl
      simp only [hless, hgreater, List.append_assoc, List.cons_append, List.nil_append]
    have hread : typeArgument (('<' :: ("Projects.".toList ++ className.toList ++ ['>'])) ++ '(' :: zs) =
        some ((), '(' :: zs) := by
      rw [htext, typeArgument, bind_apply (literal_append "<" _), bind_apply (someOf_append hne hall hstop),
        literal_append]
    exact either_of_left hread

theorem stops_typeText (q : Char → Bool) (hq : q '(' = false ∧ q '<' = false) (call : OpeningCall)
    (zs : List Char) : Stops q (call.typeText ++ '(' :: zs) := by
  rw [OpeningCall.typeText]
  cases call.className? with
  | none => exact stops_cons.2 hq.1
  | some className => exact stops_cons.2 hq.2

theorem declaration_start (hs : s.IsFramed) (hreceiver : s.opening.receiver = "builder") (zs : List Char) :
    declaration (start s ++ zs) = some (⟨s.name, s.opening.method, s.opening.name⟩, zs) := by
  rcases hs.opening.method with ⟨suffix, hmethod, hsuffix⟩
  have hbuilder : ∀ cs, Stops isBlank ("builder.Add".toList ++ cs) := stops_append (by decide) (by decide)
  -- the literal of the scanner covers receiver, dot and a part of the method
  have htext : start s ++ zs = "var ".toList ++ (s.name.toList ++ (" = ".toList ++ ("builder.Add".toList ++
      (suffix.toList ++ (s.opening.typeText ++ '(' :: ((literal s.opening.name).toList ++ zs)))))) := by
    have hadd : "builder.Add".toList = "builder".toList ++ '.' :: "Add".toList := rfl
    simp only [start, hreceiver, hmethod, hadd, String.toList_append, List.append_assoc, List.cons_append]
  rw [htext, declaration, bind_apply (binding_append hs.name _),
    bind_apply (blanks_space (hbuilder _)), bind_apply (literal_append _ _),
    bind_apply (word_append hsuffix.ne_empty hsuffix.isWord (stops_typeText _ (by decide) _ _)),
    bind_apply (perhaps_typeText hs.opening _), bind_apply (openArguments_name s.opening _),
    bind_apply (quotedSome_name hs.opening _), hmethod]
  rfl

theorem databaseDeclaration_start (hs : s.IsFramed) (hmethod : s.opening.method = "AddDatabase")
    (zs : List Char) :
    databaseDeclaration (start s ++ zs) = some (⟨s.name, s.opening.receiver, s.opening.name⟩, zs) := by
  have hreceiver := hs.opening.receiver
  -- a database has no class name, so its method is followed by the bracket
  have hstart : ∀ cs, Stops isBlank (s.opening.receiver.toList ++ cs) :=
    stops_append hreceiver.toList_ne_nil hreceiver.isBlank
  have hword : ∀ cs, Stops isWord (".AddDatabase".toList ++ cs) := by
    intro cs
    change Stops isWord ('.' :: ("AddDatabase".toList ++ cs))
    exact stops_cons.2 (by decide)
  have htext : start s ++ zs = "var ".toList ++ (s.name.toList ++ (" = ".toList ++
      (s.opening.receiver.toList ++ (".AddDatabase".toList ++
        '(' :: ((literal s.opening.name).toList ++ zs))))) := by
    have hadd : ".AddDatabase".toList = '.' :: "AddDatabase".toList := rfl
    have htype : s.opening.typeText = [] := by
      rw [OpeningCall.typeText, OpeningCall.className?_eq_none hmethod]
    simp only [start, hmethod, htype, hadd, List.append_assoc, List.cons_append, List.nil_append]
  rw [htext, databaseDeclaration, bind_apply (binding_append hs.name _),
    bind_apply (blanks_space (hstart _)),
    bind_apply (word_append hreceiver.ne_empty hreceiver.isWord (hword _)), bind_apply (literal_append _ _),
    bind_apply (openArguments_name s.opening _), bind_apply (quotedSome_name hs.opening _)]
  rfl

/-! ## Other assignments -/

section Texts

variable {receiver method : List Char}

/-- A receiver and a method stand on the two sides of the only dot. -/
theorem split_at_dot (hreceiver : ∀ c ∈ receiver, c.isAlphanum = true)
    (hmethod : ∀ c ∈ method, c.isAlphanum = true) {left right : List Char}
    (htext : ' ' :: (receiver ++ '.' :: method) = left ++ '.' :: right) :
    ' ' :: receiver = left ∧ method = right := by
  have hleft : '.' ∉ ' ' :: receiver := by
    rw [List.mem_cons, not_or]
    exact ⟨by decide, not_mem_of_isAlphanum hreceiver (by decide)⟩
  have hright : '.' ∉ method := not_mem_of_isAlphanum hmethod (by decide)
  rw [← List.cons_append] at htext
  rcases (List.append_cons_inj_of_notMem hleft hright).1 htext with ⟨hfirst, -, hsecond⟩
  exact ⟨hfirst, hsecond⟩

theorem not_isResourceText (hreceiver : ∀ c ∈ receiver, c.isAlphanum = true)
    (hmethod : ∀ c ∈ method, c.isAlphanum = true) (hne : receiver ≠ "builder".toList) :
    ¬ IsResourceText (' ' :: (receiver ++ '.' :: method)) := by
  rintro ⟨bl, w, bl', htext, hbl, -, -⟩
  have hbuilder : bl ++ ("builder.Add".toList ++ (w ++ bl')) =
      (bl ++ "builder".toList) ++ '.' :: ("Add".toList ++ (w ++ bl')) := by
    have hadd : "builder.Add".toList = "builder".toList ++ '.' :: "Add".toList := rfl
    simp only [hadd, List.append_assoc, List.cons_append]
  rw [hbuilder] at htext
  rcases split_at_dot hreceiver hmethod htext with ⟨hleft, -⟩
  -- without the blanks before it, the receiver is the builder
  have hstop : Stops isBlank receiver := by
    intro c hc
    exact isBlank_of_isAlphanum (hreceiver c (List.mem_of_mem_head? hc))
  have hspace : ∀ c ∈ [' '], isBlank c = true := by decide
  have hdrop : ([' '] ++ receiver).dropWhile isBlank = (bl ++ "builder".toList).dropWhile isBlank :=
    congrArg _ hleft
  have hbstop : Stops isBlank "builder".toList := stops_cons.2 (by decide)
  rw [dropWhile_append_of_stops hspace hstop, dropWhile_append_of_stops hbl hbstop] at hdrop
  exact hne hdrop

theorem not_isDatabaseText (hreceiver : ∀ c ∈ receiver, c.isAlphanum = true)
    (hmethod : ∀ c ∈ method, c.isAlphanum = true) (hne : method ≠ "AddDatabase".toList) :
    ¬ IsDatabaseText (' ' :: (receiver ++ '.' :: method)) := by
  rintro ⟨bl, w, bl', htext, -, -, hbl'⟩
  have hdatabase : bl ++ (w ++ (".AddDatabase".toList ++ bl')) =
      (bl ++ w) ++ '.' :: ("AddDatabase".toList ++ bl') := by
    have hadd : ".AddDatabase".toList = '.' :: "AddDatabase".toList := rfl
    simp only [hadd, List.append_assoc, List.cons_append]
  rw [hdatabase] at htext
  rcases split_at_dot hreceiver hmethod htext with ⟨-, hright⟩
  -- the method ends where the literal ends, as there is no blank in it
  have hnil : bl' = [] := by
    rw [List.eq_nil_iff_forall_not_mem]
    intro c hc
    have hnot := isBlank_of_isAlphanum (hmethod c (hright ▸ List.mem_append_right _ hc))
    rw [hbl' c hc] at hnot
    cases hnot
  rw [hnil, List.append_nil] at hright
  exact hne hright

end Texts

/-! ## What declarations are found -/

theorem all_declaration (hgap : IsGap gap) (hindent : IsIndent indent) (hs : s.IsInert) (ys : List Char) :
    all declaration (gap ++ (stem indent s ++ ';' :: ys)) =
      s.resourceCall?.toList ++ all declaration ys := by
  have hframed := hs.toIsFramed
  have hchain := fun c hc => (hs.chain c hc).resources
  rw [Statement.resourceCall?]
  split_ifs with hreceiver
  · exact assigns_declaration.all_of_start hgap hindent hframed hchain (declaration_start hframed hreceiver) ys
  · have hne : s.opening.receiver.toList ≠ "builder".toList := fun heq => hreceiver (String.toList_inj.1 heq)
    have hnot := not_isResourceText hs.opening.receiver.isAlphanum (isAlphanum_openingMethod hs.opening) hne
    exact assigns_declaration.all_of_not hgap hindent hframed hchain hnot ys

theorem all_databaseDeclaration (hgap : IsGap gap) (hindent : IsIndent indent) (hs : s.IsInert)
    (ys : List Char) :
    all databaseDeclaration (gap ++ (stem indent s ++ ';' :: ys)) =
      s.databaseCall?.toList ++ all databaseDeclaration ys := by
  have hframed := hs.toIsFramed
  have hchain := fun c hc => (hs.chain c hc).databases
  rw [Statement.databaseCall?]
  split_ifs with hmethod
  · exact assigns_databaseDeclaration.all_of_start hgap hindent hframed hchain
      (databaseDeclaration_start hframed hmethod) ys
  · have hne : s.opening.method.toList ≠ "AddDatabase".toList := fun heq => hmethod (String.toList_inj.1 heq)
    have hnot := not_isDatabaseText hs.opening.receiver.isAlphanum (isAlphanum_openingMethod hs.opening) hne
    exact assigns_databaseDeclaration.all_of_not hgap hindent hframed hchain hnot ys

/-! ## What a statement is about -/

theorem owner_stem (hgap : IsGap gap) (hs : s.IsFramed) :
    ∃ rest, owner (gap ++ stem indent s) = some (s.name, rest) := by
  have hstop : Stops isBlank (stem indent s) := stops_cons.2 (by decide)
  have hbinding := binding_append hs.name
    (s.opening.render.toList ++ s.chain.flatMap (callText indent))
  refine ⟨' ' :: (s.opening.render.toList ++ s.chain.flatMap (callText indent)), ?_⟩
  rw [owner, bind_apply (blanks_append hgap.isBlank hstop)]
  exact either_of_left hbinding

/-- Before its chain a statement calls nothing that is chained. -/
theorem Calls.skips_opening {name : String} (h : Calls p ('.' :: name.toList)) (hname : Clear name.toList)
    (hadd : name.toList.head? ≠ some 'A') (hgap : IsGap gap) (hs : s.IsFramed) (ys : List Char) :
    Skips p (gap ++ ("var ".toList ++ (s.name.toList ++ (" = ".toList ++ s.opening.render.toList)))) ys := by
  have hopens : Opens p := h.opens (clear_cons.2 ⟨by decide, hname⟩)
  rcases hopens.skips_arguments h.skips_open hs.opening ys with ⟨d, rest, htext, hd, -, hskip⟩
  rcases hs.opening.method with ⟨suffix, hmethod, -⟩
  have halnum := isAlphanum_openingMethod hs.opening
  have hpre : Clear (gap ++ ("var ".toList ++ (s.name.toList ++ (" = ".toList ++ s.opening.receiver.toList)))) ∧
      '.' ∉ gap ++ ("var ".toList ++ (s.name.toList ++ (" = ".toList ++ s.opening.receiver.toList))) := by
    have hvar : Clear "var ".toList := by decide
    have hsign : Clear " = ".toList := by decide
    constructor
    · exact (clear_of_isBlank hgap.isBlank).append (hvar.append ((clear_of_isAlphanum hs.name.isAlphanum).append
        (hsign.append (clear_of_isAlphanum hs.opening.receiver.isAlphanum))))
    · simp only [List.mem_append, not_or]
      exact ⟨fun hmem => absurd (hgap _ hmem) (by decide), by decide,
        not_mem_of_isAlphanum hs.name.isAlphanum (by decide), by decide,
        not_mem_of_isAlphanum hs.opening.receiver.isAlphanum (by decide)⟩
  -- methods that open a statement begin with `Add`
  have hne : name.toList ≠ s.opening.method.toList := by
    intro heq
    apply hadd
    rw [heq, hmethod, String.toList_append]
    rfl
  have hsegment := h.skips_of_ne hname hpre ⟨clear_of_isAlphanum halnum,
    not_mem_of_isAlphanum halnum (by decide), fun c hc => isBlank_of_isAlphanum (halnum c hc)⟩ hd
    (fun heq => absurd heq hne) (rest ++ ys)
  have hopening : gap ++ ("var ".toList ++ (s.name.toList ++ (" = ".toList ++ s.opening.render.toList))) =
      ((gap ++ ("var ".toList ++ (s.name.toList ++ (" = ".toList ++ s.opening.receiver.toList)))) ++
        '.' :: s.opening.method.toList) ++ [d] ++ rest := by
    simp only [OpeningCall.toList_render, htext, List.append_assoc, List.cons_append, List.nil_append]
  rw [hopening]
  exact Skips.append hsegment hskip

theorem stem_eq (gap indent : List Char) (s : Statement) : gap ++ stem indent s =
    (gap ++ ("var ".toList ++ (s.name.toList ++ (" = ".toList ++ s.opening.render.toList)))) ++
      s.chain.flatMap (callText indent) := by
  simp only [stem, List.append_assoc]

/-- The calls of a method that a statement has. -/
theorem Reads.all_stem {name : String} {read : ChainCall → Option α} (h : Reads p name read)
    (hadd : name.toList.head? ≠ some 'A') (hgap : IsGap gap) (hindent : IsIndent indent) (hs : s.IsFramed)
    (hlegible : ∀ c ∈ s.chain, c.IsLegible p read) :
    all p (gap ++ stem indent s) = s.chain.filterMap read := by
  have hchain := h.all_chain hindent hlegible []
  have hnil : all p [] = [] := rfl
  rw [List.append_nil, hnil, List.append_nil] at hchain
  rw [stem_eq, all_of_skips (h.calls.skips_opening h.clear hadd hgap hs _), hchain]

theorem Reads.first?_stem {name : String} {read : ChainCall → Option α} (h : Reads p name read)
    (hadd : name.toList.head? ≠ some 'A') (hgap : IsGap gap) (hindent : IsIndent indent) (hs : s.IsFramed)
    (hlegible : ∀ c ∈ s.chain, c.IsLegible p read) :
    first? p (gap ++ stem indent s) = (s.chain.filterMap read).head? := by
  rw [stem_eq, first?_of_skips (h.calls.skips_opening h.clear hadd hgap hs _),
    h.first?_chain hindent hlegible]

end AppHost
end HostTopology
