import HostTopology.Import.Format

/-!
# Sketches — topologies by position

An import keeps its drafts under new ids. Most of what is said about imports has nothing to do with these ids, so
that here the same files are read without any: an instance is its position, and links lead from one position to
another.

* `Sketch` — a topology before its instances have ids; `Sketch.imported` gives them ids that are not taken;
* `AppHost.Reading` — what has been read of an AppHost, with the position that each variable stands for;
* `Sketch.ofAppHost`, `Sketch.ofCompose`, `Sketch.ofDockerfile` — what a file says.
-/

namespace HostTopology

/-! ## Sketches -/

/-- A link leads from the position of its source to that of its target. -/
structure Sketch where
  drafts : List Draft
  links : List (Nat × Nat)
  warnings : List String
deriving DecidableEq, Repr

namespace Sketch

def empty : Sketch :=
  ⟨[], [], []⟩

/-- Adds a link between two different instances unless it is there. -/
def addLink (s : Sketch) (source target : Nat) : Sketch :=
  if source = target ∨ (source, target) ∈ s.links then s
  else { s with links := s.links ++ [(source, target)] }

def warn (s : Sketch) (warning : String) : Sketch :=
  { s with warnings := s.warnings ++ [warning] }

/-- Changes the instance at a position. -/
def modify (s : Sketch) (position : Nat) (change : Draft → Draft) : Sketch :=
  { s with drafts := s.drafts.modify position change }

/-- A connection between the instances at two positions. -/
def connection (ids : List String) (link : Nat × Nat) : Connection :=
  Connection.make "" (ids.getD link.1 "") (ids.getD link.2 "") .reference

def imported (s : Sketch) (reserved : List String) : Imported :=
  let ids := freshIds reserved s.drafts.length
  ⟨⟨s.drafts.zipWith Draft.withId ids, s.links.map (connection ids)⟩, s.warnings⟩

end Sketch

/-! ## AppHosts -/

namespace AppHost

open Text

/-- What has been read, with the position of the instance that each variable stands for. Later
variables come first. -/
structure Reading where
  sketch : Sketch
  positions : List (String × Nat)
deriving DecidableEq, Repr

namespace Reading

def empty : Reading :=
  ⟨.empty, []⟩

def bind (s : Reading) (name : String) (position : Nat) : Reading :=
  { s with positions := (name, position) :: s.positions }

def addResource (r : Registry) (s : Reading) (call : ResourceCall) : Reading :=
  match r.findByBuilder? call.method with
  | none => { s with sketch := s.sketch.warn ("Unknown resource type: " ++ call.method) }
  | some type =>
    let drafts := s.sketch.drafts
    { s with sketch := { s.sketch with drafts := drafts ++ [draftOf type call.resource] } }.bind
      call.name drafts.length

def addDatabase (s : Reading) (call : DatabaseCall) : Reading :=
  match s.positions.lookup call.server with
  | none => s
  | some position =>
    { s with sketch := s.sketch.modify position fun d => { d with database := some call.database } }.bind
      call.name position

/-- Links from the variables that a statement refers to. -/
def addReferences (s : Reading) (position : Nat) (statement : List Char) : Reading :=
  let sources := (Scan.all referenceCall statement).filterMap fun name => s.positions.lookup name
  { s with sketch := sources.foldl (fun sketch source => sketch.addLink source position) s.sketch }

def apply (s : Reading) (statement : List Char) : Except NumeralError Reading :=
  match (owner statement).bind fun (name, _) => s.positions.lookup name with
  | none => .ok s
  | some position =>
    match s.sketch.drafts[position]? with
    | none => .ok s
    | some draft => do
      let config ← configure statement draft.config
      let s := s.addReferences position statement
      return { s with sketch := s.sketch.modify position fun d => { d with config := config } }

end Reading
end AppHost

open AppHost Text in
def Sketch.ofAppHost (r : Registry) (text : String) : Except NumeralError Sketch := do
  let code := dropComments text.toList
  let resources := (Scan.all declaration code).foldl (Reading.addResource r) .empty
  let databases := (Scan.all databaseDeclaration code).foldl Reading.addDatabase resources
  let reading ← (splitAll (· = ';') code).foldlM Reading.apply databases
  return if reading.sketch.drafts.isEmpty then reading.sketch.warn nothingFound else reading.sketch

/-! ## Compose files -/

namespace Compose

/-- The position of the last service with a name. -/
def position? (services : List Service) (name : String) : Option Nat :=
  (services.zipIdx.reverse.find? fun s => s.1.name = name).map Prod.snd

def addDependency (services : List Service) (s : Service) (sketch : Sketch) (dependency : String) : Sketch :=
  match position? services dependency, position? services s.name with
  | some source, some target => sketch.addLink source target
  | _, _ =>
    sketch.warn ("Service \"" ++ s.name ++ "\" depends on unknown service \"" ++ dependency ++ "\"")

end Compose

open Compose in
def Sketch.ofCompose (r : Registry) (text : String) : Sketch :=
  let services := Compose.services text
  let sketch : Sketch := ⟨services.map (Service.draft r), [], services.flatMap (Service.warnings r)⟩
  let linked := services.foldl (fun sketch s => s.dependsOn.foldl (addDependency services s) sketch) sketch
  if services.isEmpty then linked.warn nothingFound else linked

/-! ## Dockerfiles -/

open Dockerfile in
def Sketch.ofDockerfile (fileName text : String) : Sketch :=
  let b := Build.ofText text
  ⟨[b.draft fileName], [], b.warnings⟩

/-- What a file says. Only the name of a Dockerfile matters. -/
def Format.sketch (r : Registry) (fileName text : String) : Format → Except Text.NumeralError Sketch
  | appHost => Sketch.ofAppHost r text
  | compose => .ok (Sketch.ofCompose r text)
  | dockerfile => .ok (Sketch.ofDockerfile fileName text)

end HostTopology
