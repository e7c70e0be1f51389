import HostTopology.Catalog.Registry
import HostTopology.Import.Collection
import HostTopology.Text.Digit
import HostTopology.Text.Scan

/-!
# Reader — a topology from an AppHost

The reader looks for the calls that it knows and passes over everything else.

* `dropComments` — the text without the lines that are comments;
* `declaration`, `databaseDeclaration` — a variable assigned to a new resource, and to a database of
  a server; the variable of a database stands for the server too;
* `owner` — the variable that a statement is about;
* `readStatement` — what a statement says about its variable: references, environment, bind mounts,
  replicas and the lifetime;
* `Collection.ofAppHost` — the whole.

Statements end at a semicolon, wherever it stands. A number of replicas with too many digits cannot
be read and ends the reading.
-/

namespace HostTopology
namespace AppHost

open Text

/-! ## Comments -/

/-- The length of a comment that a text begins with, up to the end of its line. Blanks and blank
lines before the comment belong to it. -/
def commentLength (cs : List Char) : Nat :=
  let rest := cs.dropWhile isBlank
  if ['/', '/'].isPrefixOf rest then cs.length - (rest.dropWhile (· ≠ '\n')).length else 0

/-- The text without comments, after the first `skip` characters, which belong to a comment. -/
def dropCommentsFrom (skip : Nat) (atStart : Bool) : List Char → List Char
  | [] => []
  | c :: cs =>
    match skip, if atStart then commentLength (c :: cs) else 0 with
    | skip + 1, _ => dropCommentsFrom skip false cs
    | 0, skip + 1 => dropCommentsFrom skip false cs
    | 0, 0 => c :: dropCommentsFrom 0 (c = '\n') cs

def dropComments (cs : List Char) : List Char :=
  dropCommentsFrom 0 true cs

/-! ## Calls -/

/-- A resource that is declared by the method `Add…`. -/
structure ResourceCall where
  name : String
  method : String
  resource : String
deriving DecidableEq, Repr

structure DatabaseCall where
  name : String
  server : String
  database : String
deriving DecidableEq, Repr

/-- A new variable and the sign after it. -/
def binding : Scan String := do
  Scan.either (Scan.literal "var") (Scan.either (Scan.literal "let") (Scan.literal "const"))
  Scan.someBlanks
  let name ← Scan.word
  Scan.blanks
  Scan.literal "="
  return name

/-- The opening bracket of a call's arguments. -/
def openArguments : Scan Unit := do
  Scan.blanks
  Scan.literal "("
  Scan.blanks

def closeArguments : Scan Unit := do
  Scan.blanks
  Scan.literal ")"

def typeArgument : Scan Unit := do
  Scan.literal "<"
  let _ ← Scan.someOf (· ≠ '>')
  Scan.literal ">"

def declaration : Scan ResourceCall := do
  let name ← binding
  Scan.blanks
  Scan.literal "builder.Add"
  let suffix ← Scan.word
  Scan.perhaps typeArgument
  openArguments
  return ⟨name, "Add" ++ suffix, ← Scan.quotedSome⟩

def databaseDeclaration : Scan DatabaseCall := do
  let name ← binding
  Scan.blanks
  let server ← Scan.word
  Scan.literal ".AddDatabase"
  openArguments
  return ⟨name, server, ← Scan.quotedSome⟩

def memberAccess : Scan String := do
  let name ← Scan.word
  Scan.blanks
  Scan.literal "."
  return name

/-- The variable that a statement assigns to, or begins with. -/
def owner : Scan String := do
  Scan.blanks
  Scan.either binding memberAccess

def referenceCall : Scan String := do
  Scan.literal ".WithReference"
  openArguments
  let name ← Scan.word
  closeArguments
  return name

/-- A call of a method with two texts. -/
def pairCall (method : String) : Scan (String × String) := do
  Scan.literal method
  openArguments
  let first ← Scan.quoted
  Scan.blanks
  Scan.literal ","
  Scan.blanks
  let second ← Scan.quoted
  closeArguments
  return (first, second)

def replicasCall : Scan (List Char) := do
  Scan.literal ".WithReplicas"
  openArguments
  let digits ← Scan.someOf isDecimal
  closeArguments
  return digits

def persistentMark : String := "ContainerLifetime.Persistent"

/-! ## Reading -/

namespace Reading

/-- A database server is not persistent until its lifetime says so. -/
def draftOf (type : Catalog.ResourceType) (name : String) : Draft :=
  ⟨type.id, name, none,
    { ResourceConfig.empty with persistent := if type.category = .database then some false else none }⟩

def extend (envVars : List EnvVar) (volumes : List VolumeMount) (c : ResourceConfig) : ResourceConfig :=
  { c with envVars := c.envVars ++ envVars, volumes := c.volumes ++ volumes }

def setReplicas (replicas : Option Int) (c : ResourceConfig) : ResourceConfig :=
  { c with replicas := replicas.or c.replicas }

def setLifetime (isPersistent : Bool) (c : ResourceConfig) : ResourceConfig :=
  if c.persistent = some false ∧ isPersistent then { c with persistent := some true } else c

/-- What the calls in a statement do to the configuration of the instance it is about. -/
def configure (statement : List Char) (c : ResourceConfig) : Except NumeralError ResourceConfig := do
  let envVars := (Scan.all (pairCall ".WithEnvironment") statement).map fun (k, v) => EnvVar.mk k v
  let volumes := (Scan.all (pairCall ".WithBindMount") statement).map fun (s, t) => VolumeMount.mk s t
  let replicas ← match Scan.first? replicasCall statement with
    | some digits => (readNumeral digits).map fun n => some (n : Int)
    | none => .ok none
  return setLifetime (contains persistentMark.toList statement)
    (setReplicas replicas (extend envVars volumes c))

end Reading

def readResource (r : Registry) (c : Collection) (call : ResourceCall) : Collection :=
  match r.findByBuilder? call.method with
  | none => c.warn ["Unknown resource type: " ++ call.method]
  | some type => c.add call.name (Reading.draftOf type call.resource)

def readDatabase (c : Collection) (call : DatabaseCall) : Collection :=
  match c.aliases.lookup call.server with
  | none => c
  | some id => (c.change id fun d => { d with database := some call.database }).bind call.name id

/-- Joins the instance that a variable stands for to the one that refers to it. -/
def readReference (target : String) (c : Collection) (name : String) : Collection :=
  match c.aliases.lookup name with
  | none => c
  | some source => c.join source target

/-- What a statement says about the instance that its variable stands for. Variables stand for ids that have drafts
only. -/
def readStatement (c : Collection) (statement : List Char) : Except NumeralError Collection :=
  match (owner statement).bind fun (name, _) => c.aliases.lookup name with
  | none => .ok c
  | some id =>
    match c.drafts.lookup id with
    | none => .ok c
    | some draft => do
      let config ← Reading.configure statement draft.config
      let c := (Scan.all referenceCall statement).foldl (readReference id) c
      return c.change id fun d => { d with config := config }

def nothingFound : String :=
  "No Aspire resources found in the file. Make sure the file contains builder.Add* patterns."

end AppHost

open AppHost Text

/-- Resources come first, then databases, and then what the statements say, so that a variable can be used before it
is declared. -/
def Collection.ofAppHost (r : Registry) (reserved : List String) (text : String) : Except NumeralError Collection := do
  let code := dropComments text.toList
  let resources := (Scan.all declaration code).foldl (readResource r) (.start reserved)
  let databases := (Scan.all databaseDeclaration code).foldl readDatabase resources
  let c ← (splitAll (· = ';') code).foldlM readStatement databases
  return if c.drafts.isEmpty then c.warn [nothingFound] else c

end HostTopology
