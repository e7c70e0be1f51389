import HostTopology.Text.Digit
import HostTopology.Topology.Typed
import HostTopology.Validation.Cycle
import HostTopology.Validation.Finding

/-!
# Rules — the rules that a topology is held against

There is one definition for each family of rules. Every family looks at the whole topology; what one
finds keeps no other from looking.

Ports are kept as text. A text of digits has no value when one of the digits is not decimal or when
there are too many of them; the rules that look at ports end in `Text.NumeralError` then.
-/

namespace HostTopology
namespace Validation

open Catalog

/-! ## Names of instances -/

def member (r : Registry) (i : ResourceInstance) : Member :=
  ⟨i.id, r.titleOf i⟩

def isBlankText (s : String) : Bool :=
  s.toList.all Text.isBlank

def findWhen (p : Bool) (f : Finding) : List Finding :=
  if p then [f] else []

/-! ## Naming -/

def checkName (r : Registry) (i : ResourceInstance) : List Finding :=
  if isBlankText i.name then [.missingName i.id (r.labelOf i)]
  else findWhen (!isIdentifier i.name) (.invalidName i.id i.name)

def checkDatabaseName (r : Registry) (i : ResourceInstance) : List Finding :=
  match r.databaseOf? i with
  | some database => findWhen (!isIdentifier database) (.invalidDatabase i.id database)
  | none => []

/-- A name is held against the parameter of the method that declares the instance. -/
def checkNameParameter (r : Registry) (i : ResourceInstance) : List Finding :=
  match r.find? i.resourceType with
  | none => []
  | some type =>
    match type.builder.parameter? "name" with
    | none => []
    | some p =>
      if i.name = "" then []
      else (p.check (.text i.name)).zipIdx.map fun (fault, n) => .nameFault i.id type.builder.name n fault

/-- Groups of the members that have the same key, in the order in which the keys appear. -/
def groupBy {α β : Type} [BEq β] (key : α → β) (members : List α) : List (β × List α) :=
  (members.map key).eraseDups.map fun k => (k, members.filter fun m => key m == k)

def checkDuplicates (t : Topology) : List Finding :=
  let named := t.instances.filter fun i => !isBlankText i.name
  (groupBy ResourceInstance.name named).filterMap fun
    | (name, first :: second :: others) =>
      some (.duplicateName name first.id ((first :: second :: others).map ResourceInstance.id))
    | _ => none

/-! ### Variables -/

/-- A variable and what it is declared for. -/
structure Declared where
  name : String
  node : String
  origin : Origin
deriving DecidableEq, Repr

def declaredFor (r : Registry) (i : ResourceInstance) : List Declared :=
  if isBlankText i.name || (r.find? i.resourceType).isNone then []
  else
    ⟨Naming.variableName i.name, i.id, .resource i.name⟩ ::
      ((r.databaseOf? i).map fun d => ⟨Naming.variableName d, i.id, .database d⟩).toList

/-- Two declarations of one variable collide. Resources that share one name are left to the rule
about duplicate names. -/
def collides : List Origin → Bool
  | .resource name :: second :: others => (second :: others).any (· ≠ .resource name)
  | .database _ :: _ :: _ => true
  | _ => false

def checkVariables (r : Registry) (t : Topology) : List Finding :=
  (groupBy Declared.name (t.instances.flatMap (declaredFor r))).flatMap fun (name, entries) =>
    let origins := entries.map Declared.origin
    match entries with
    | first :: _ =>
      findWhen (collides origins)
        (.variableCollision name first.node origins (entries.map Declared.node).eraseDups)
    | [] => []

def checkNaming (r : Registry) (t : Topology) : List Finding :=
  (t.instances.flatMap fun i => checkName r i ++ checkDatabaseName r i ++ checkNameParameter r i)
    ++ checkDuplicates t ++ checkVariables r t

/-! ## Use of the hosting methods -/

/-- A text of digits stands for a number. -/
def portValue (container : String) : Except Text.NumeralError Value :=
  if Text.allDigits container.toList then
    (Text.readNumeral container.toList).map fun n => .int n
  else .ok (.text container)

/-- A parameter that takes a path. -/
def isPathParameter (parameter : String) : Bool :=
  parameter = "scriptPath" || parameter = "projectDirectory" || parameter = "workingDirectory"

/-- The value that the declaration of an instance passes for a parameter. -/
def builderArgument (i : ResourceInstance) (parameter : String) : Except Text.NumeralError Value :=
  let ofName (f : String → String) : Value := if i.name = "" then .null else .text (f i.name)
  if parameter = "name" then .ok (.text i.name)
  else if parameter = "port" then
    match i.config.ports with
    | [] => .ok .null
    | p :: _ => portValue p.container
  else if parameter = "scriptPath" ∧ i.resourceType = "python-app" then .ok (.text "main.py")
  else if isPathParameter parameter then .ok (ofName ("../" ++ ·))
  else if parameter = "image" then .ok (ofName fun name => "myregistry/" ++ Naming.containerImageName name)
  else if parameter = "tag" then .ok (.text "latest")
  else .ok .null

def checkArgument (i : ResourceInstance) (method : String) (p : Parameter) :
    Except Text.NumeralError (List Finding) := do
  let value ← builderArgument i p.name
  return (p.check value).zipIdx.map fun (fault, n) => .argumentFault i.id method p n fault

def checkReference (r : Registry) (t : Topology) (i : ResourceInstance) : List Finding :=
  findWhen (!(t.incoming i.id).isEmpty && !r.supportsChaining i.resourceType "WithReference")
    (.noReference i.id (r.labelOf i) i.resourceType)

def checkMethods (r : Registry) (t : Topology) (i : ResourceInstance) :
    Except Text.NumeralError (List Finding) :=
  match r.find? i.resourceType with
  | none => .ok [.unknownType i.id i.resourceType]
  | some type => do
    let found ← type.builder.parameters.mapM (checkArgument i type.builder.name)
    return found.flatten ++ checkReference r t i

/-! ## Connections -/

def checkConnection (r : Registry) (t : Topology) (c : Connection) : List Finding :=
  match t.find? c.source, t.find? c.target with
  | some source, some target =>
    findWhen (!r.isConnectionValid source.resourceType target.resourceType)
        (.incompatible c (r.labelOf source) (r.labelOf target) source.resourceType target.resourceType)
      ++ findWhen (c.source = c.target) (.selfConnection c.id c.source)
  | _, _ => [.orphan c.id]

/-! ## Configuration -/

/-- A port number is written in digits and lies between 1 and 65535. -/
def isPort (container : String) : Except Text.NumeralError Bool :=
  if Text.allDigits container.toList then
    (Text.readNumeral container.toList).map fun n => 1 ≤ n && n ≤ 65535
  else .ok false

def checkPort (node : String) (position : Nat) (p : PortMapping) :
    Except Text.NumeralError (List Finding) := do
  if p.container = "" then return []
  return findWhen (!(← isPort p.container)) (.port node position p.container)

def checkEnvKey (node : String) (position : Nat) (v : EnvVar) : List Finding :=
  findWhen (v.key ≠ "" && !Pattern.envKey.accepts v.key) (.envKey node position v.key)

def checkStorage (r : Registry) (i : ResourceInstance) : List Finding :=
  findWhen (r.allowsDatabase i.resourceType && isBlankText (i.database.getD ""))
      (.noDatabase i.id (r.labelOf i))
    ++ findWhen (r.categoryOf? i = some .database && i.config.persistent = some false)
      (.notPersistent i.id (r.titleOf i))

def checkConfiguration (r : Registry) (i : ResourceInstance) :
    Except Text.NumeralError (List Finding) :=
  if (r.categoryOf? i).isNone then .ok []
  else do
    let ports ← i.config.ports.zipIdx.mapM fun (p, n) => checkPort i.id n p
    return checkStorage r i ++ i.config.envVars.zipIdx.flatMap (fun (v, n) => checkEnvKey i.id n v)
      ++ ports.flatten

/-! ## Architecture -/

/-- Instances that run code of the application. -/
def isWorkload (r : Registry) (i : ResourceInstance) : Bool :=
  r.categoryOf? i = some .project || r.categoryOf? i = some .container

/-- Services that others use. -/
def isBacking (r : Registry) (i : ResourceInstance) : Bool :=
  r.categoryOf? i = some .database || r.categoryOf? i = some .cache || r.categoryOf? i = some .messaging

def checkUse (r : Registry) (t : Topology) (i : ResourceInstance) : List Finding :=
  findWhen (isWorkload r i && (t.incoming i.id).isEmpty) (.isolated i.id (r.titleOf i))
    ++ findWhen (isBacking r i && (t.outgoing i.id).isEmpty) (.unused i.id (r.titleOf i))

def Shared.category : Shared → ResourceCategory
  | messaging => .messaging
  | cache => .cache

def checkShared (r : Registry) (t : Topology) (service : Shared) : List Finding :=
  let members := t.instances.filter fun i => r.categoryOf? i = some service.category
  findWhen (1 < members.length) (.several service (members.map (member r)))

def checkArchitecture (r : Registry) (t : Topology) : List Finding :=
  t.instances.flatMap (checkUse r t) ++ checkShared r t .messaging ++ checkShared r t .cache

/-! ## Security -/

/-- Words that hint at a secret. -/
def secretWords : List String :=
  ["password", "secret", "key", "token", "api_key", "apikey"]

/-- A word is in a key, whatever the case of the key's letters. -/
def mentions (key word : String) : Bool :=
  Text.contains word.toList (Text.lower key.toList)

/-- The text begins like a placeholder. -/
def isPlaceholder (value : String) : Bool :=
  value.toList.head?.any fun c => c = '{' || c = '$'

def checkSecret (node : String) (position : Nat) (v : EnvVar) : List Finding :=
  findWhen (secretWords.any (mentions v.key) && v.value ≠ "" && !isPlaceholder v.value)
    (.secret node position v.key)

def checkOpenAi (i : ResourceInstance) : List Finding :=
  findWhen (i.resourceType = "openai"
      && !i.config.envVars.any fun v => mentions v.key "api" || mentions v.key "key")
    (.openAiKey i.id (if i.name = "" then "OpenAI" else i.name))

def checkSecurity (i : ResourceInstance) : List Finding :=
  i.config.envVars.zipIdx.flatMap (fun (v, n) => checkSecret i.id n v) ++ checkOpenAi i

/-! ## Performance -/

/-- A workload that more than three connections lead to should have replicas. -/
def checkPerformance (r : Registry) (t : Topology) (i : ResourceInstance) : List Finding :=
  let incoming := (t.incoming i.id).length
  findWhen (isWorkload r i && 3 < incoming && i.config.replicas.getD 0 < 2)
    (.fewReplicas i.id (r.titleOf i) incoming)

/-! ## Cycles -/

/-- The instance with an id, as a member of a cycle. -/
def memberOf (r : Registry) (t : Topology) (id : String) : Member :=
  ((t.find? id).map (member r)).getD ⟨id, id⟩

def checkCycles (r : Registry) (t : Topology) : List Finding :=
  t.cycles.filterMap fun ids =>
    match ids.map (memberOf r t) with
    | first :: rest => some (.cycle first rest)
    | [] => none

end Validation
end HostTopology
