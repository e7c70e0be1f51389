import HostTopology.Catalog.Check
import HostTopology.Naming
import HostTopology.Topology.Basic

/-!
# Finding — what validation can find in a topology

`Finding` has one constructor for every rule; it holds what the rule found and where.
`Finding.issue` is how a finding is reported: an id made from the rule and the place, a severity,
the rule's family and the texts.
-/

namespace HostTopology
namespace Validation

/-- Only errors stand in the way of generating code. -/
inductive Severity where
  | error
  | warning
  | info
deriving DecidableEq, Repr

/-- The families of rules. -/
inductive Family where
  | naming
  | configuration
  | connection
  | architecture
  | security
  | performance
  | api
deriving DecidableEq, Repr

def Severity.name : Severity → String
  | error => "error"
  | warning => "warning"
  | info => "info"

def Family.name : Family → String
  | naming => "naming"
  | configuration => "configuration"
  | connection => "connection"
  | architecture => "architecture"
  | security => "security"
  | performance => "performance"
  | api => "api"

/-! ## Findings -/

/-- What a variable is declared for. -/
inductive Origin where
  | resource (name : String)
  | database (name : String)
deriving DecidableEq, Repr

/-- An instance by its id, with the title it has in messages. -/
structure Member where
  id : String
  title : String
deriving DecidableEq, Repr

/-- Backing services of which one is enough. -/
inductive Shared where
  | messaging
  | cache
deriving DecidableEq, Repr

/-- An instance is named by its id (`node`), its type's display name (`label`), or its title: its
name, or the label if it has no name. A position counts from zero. -/
inductive Finding where
  | missingName (node label : String)
  | invalidName (node name : String)
  | invalidDatabase (node database : String)
  | nameFault (node method : String) (position : Nat) (fault : Catalog.ParameterFault)
  | duplicateName (name : String) (first : String) (holders : List String)
  | variableCollision (declared : String) (first : String) (origins : List Origin) (nodes : List String)
  | unknownType (node type : String)
  | argumentFault (node method : String) (parameter : Catalog.Parameter) (position : Nat)
      (fault : Catalog.ParameterFault)
  | noReference (node label type : String)
  | orphan (edge : String)
  | incompatible (edge : Connection) (sourceLabel targetLabel sourceType targetType : String)
  | selfConnection (edge node : String)
  | noDatabase (node label : String)
  | notPersistent (node title : String)
  | envKey (node : String) (position : Nat) (key : String)
  | port (node : String) (position : Nat) (container : String)
  | isolated (node title : String)
  | unused (node title : String)
  | several (service : Shared) (members : List Member)
  | secret (node : String) (position : Nat) (key : String)
  | openAiKey (node title : String)
  | fewReplicas (node title : String) (incoming : Nat)
  | cycle (first : Member) (rest : List Member)
deriving DecidableEq, Repr

/-! ## Texts -/

def quote (s : String) : String :=
  "\"" ++ s ++ "\""

def Origin.label : Origin → String
  | resource name => quote name
  | database name => "database " ++ quote name

/-- The titles along a cycle, the first one once more at the end. -/
def cycleTitles (first : Member) (rest : List Member) : List String :=
  (first :: rest ++ [first]).map Member.title

namespace Finding

def severity : Finding → Severity
  | unknownType .. | noDatabase .. | notPersistent .. | envKey .. | unused .. | several .. | secret .. =>
    .warning
  | isolated .. | openAiKey .. | fewReplicas .. => .info
  | _ => .error

def family : Finding → Family
  | missingName .. | invalidName .. | invalidDatabase .. | duplicateName .. | variableCollision .. => .naming
  | nameFault .. | unknownType .. | argumentFault .. | noReference .. => .api
  | orphan .. | incompatible .. | selfConnection .. => .connection
  | noDatabase .. | notPersistent .. | envKey .. | port .. => .configuration
  | isolated .. | unused .. | several .. | cycle .. => .architecture
  | secret .. | openAiKey .. => .security
  | fewReplicas .. => .performance

def id : Finding → String
  | missingName node _ => "naming-missing-" ++ node
  | invalidName node _ => "naming-invalid-" ++ node
  | invalidDatabase node _ => "naming-invalid-db-" ++ node
  | nameFault node _ position _ => "naming-constraint-" ++ node ++ "-" ++ toString position
  | duplicateName _ first _ => "naming-duplicate-" ++ first
  | variableCollision name first _ _ => "naming-variable-collision-" ++ first ++ "-" ++ name
  | unknownType node _ => "api-unknown-" ++ node
  | argumentFault node _ p position _ => "api-param-" ++ node ++ "-" ++ p.name ++ "-" ++ toString position
  | noReference node _ _ => "api-no-reference-" ++ node
  | orphan edge => "connection-orphan-" ++ edge
  | incompatible edge .. => "connection-invalid-" ++ edge.id
  | selfConnection edge _ => "connection-self-" ++ edge
  | noDatabase node _ => "config-no-database-" ++ node
  | notPersistent node _ => "config-non-persistent-" ++ node
  | envKey node position _ => "config-env-key-" ++ node ++ "-" ++ toString position
  | port node position _ => "config-port-" ++ node ++ "-" ++ toString position
  | isolated node _ => "arch-isolated-project-" ++ node
  | unused node _ => "arch-unused-resource-" ++ node
  | several .messaging _ => "arch-multiple-messaging"
  | several .cache _ => "arch-multiple-cache"
  | secret node position _ => "security-hardcoded-secret-" ++ node ++ "-" ++ toString position
  | openAiKey node _ => "security-openai-config-" ++ node
  | fewReplicas node _ _ => "perf-replicas-" ++ node
  | cycle first _ => "arch-circular-" ++ first.id

def message : Finding → String
  | missingName _ label => label ++ " requires an instance name"
  | invalidName _ name => quote name ++ " is not a valid C# identifier"
  | invalidDatabase _ database => "Database name " ++ quote database ++ " is not a valid C# identifier"
  | nameFault _ _ _ fault => fault.message "name"
  | duplicateName name _ _ => "Duplicate instance name " ++ quote name
  | variableCollision name _ origins _ =>
    "C# variable " ++ quote name ++ " would be declared for "
      ++ ", ".intercalate (origins.map Origin.label)
  | unknownType _ type => "Unknown resource type " ++ quote type
  | argumentFault _ _ p _ fault => fault.message p.name
  | noReference _ label _ => label ++ " does not support .WithReference()"
  | orphan _ => "Connection references a non-existent node"
  | incompatible _ source target _ _ =>
    "Invalid connection: " ++ source ++ " cannot connect to " ++ target
  | selfConnection .. => "A resource cannot reference itself"
  | noDatabase _ label => label ++ " has no database configured"
  | notPersistent _ title => title ++ " is not using persistent storage"
  | envKey _ _ key => "Environment variable " ++ quote key ++ " may not follow conventions"
  | port _ _ container => "Invalid port number: " ++ container
  | isolated _ title => title ++ " has no incoming connections"
  | unused _ title => title ++ " is not connected to any consumers"
  | several .messaging _ => "Multiple messaging systems detected"
  | several .cache _ => "Multiple caching systems detected"
  | secret _ _ key => "Potential hardcoded secret in " ++ quote key
  | openAiKey _ title => title ++ " may need API key configuration"
  | fewReplicas _ title _ => title ++ " has many dependencies but only 1 replica"
  | cycle first rest =>
    "Circular dependency detected: " ++ " → ".intercalate (cycleTitles first rest)

def details : Finding → Option String
  | missingName .. =>
    some "Every resource must have a unique instance name that will be used in the generated code."
  | invalidName .. =>
    some <| "C# identifiers must start with a letter or underscore, and can only contain "
      ++ "letters, digits, and underscores. Reserved keywords cannot be used."
  | invalidDatabase .. => some "Database names must follow C# identifier naming rules."
  | nameFault .. => none
  | duplicateName .. => some "Each resource must have a unique name within the application."
  | variableCollision .. =>
    some "Generated variable names are camelCase forms of resource and database names."
  | unknownType .. => some "This resource type is not recognized in the API schema."
  | argumentFault _ _ p _ _ => p.description
  | noReference _ _ type =>
    some ("Resources of type " ++ quote type ++ " cannot receive references from other resources.")
  | orphan _ => some "This connection is invalid because one or both nodes no longer exist."
  | incompatible _ _ _ source target =>
    some <| "Resources of type " ++ quote source ++ " cannot be referenced by resources of type "
      ++ quote target ++ "."
  | selfConnection .. => none
  | noDatabase .. => some "You can add a database to this server using .AddDatabase()."
  | notPersistent .. => some "Container data will be lost when the container restarts."
  | envKey .. => some "Environment variable names are typically uppercase with underscores."
  | port .. => some "Port numbers must be between 1 and 65535."
  | isolated .. =>
    some "This resource is not connected to any databases, caches, or other services."
  | unused .. => some "This resource is deployed but not used by any projects."
  | several _ members => some ("Found: " ++ ", ".intercalate (members.map Member.title))
  | secret .. => some "Hardcoding secrets in environment variables is a security risk."
  | openAiKey .. => some "OpenAI requires an API key to function."
  | fewReplicas _ _ incoming =>
    some <| "This resource has " ++ toString incoming
      ++ " incoming connections which may indicate high load."
  | cycle .. =>
    some "Circular dependencies prevent proper dependency ordering in the generated code."

def suggestion : Finding → Option String
  | missingName .. => some "Provide a meaningful name for the resource"
  | invalidName _ name => some ("Try using " ++ quote (Naming.suggestIdentifier name) ++ " instead")
  | invalidDatabase _ database =>
    some ("Try using " ++ quote (Naming.suggestIdentifier database) ++ " instead")
  | duplicateName name _ _ =>
    some ("Consider renaming to " ++ quote (name ++ "2") ++ " or choosing a more descriptive name")
  | variableCollision .. =>
    some "Rename one of the resources or databases so their variable names differ"
  | noReference .. => some "Remove the incoming connections or change the connection direction"
  | orphan _ => some "Delete this connection"
  | incompatible .. => some "Remove this connection or reverse its direction"
  | selfConnection .. => some "Remove this connection"
  | noDatabase .. => some "Add a database name to create a default database"
  | notPersistent .. => some "Enable ContainerLifetime.Persistent for data durability"
  | envKey _ _ key => some ("Consider renaming to " ++ quote (Naming.suggestEnvKey key))
  | isolated .. => some "Consider connecting to backend resources if needed"
  | unused .. => some "Connect this resource to a project or remove it"
  | several .messaging _ => some "Consider standardizing on a single messaging system for simplicity"
  | several .cache _ =>
    some "Consider using a single caching system unless you have specific requirements"
  | secret .. => some "Use user secrets or environment variable placeholders instead"
  | openAiKey .. => some "Configure the API key via user secrets or environment variables"
  | fewReplicas .. => some "Consider increasing replicas for better availability"
  | cycle .. => some "Remove one of the connections to break the cycle"
  | nameFault .. | unknownType .. | argumentFault .. | port .. => none

/-! ## Places -/

/-- The id of the instance that a finding is about. -/
def node? : Finding → Option String
  | missingName node _ | invalidName node _ | invalidDatabase node _ | nameFault node _ _ _
  | duplicateName _ node _ | variableCollision _ node _ _ | unknownType node _
  | argumentFault node _ _ _ _ | noReference node _ _ | selfConnection _ node | noDatabase node _
  | notPersistent node _ | envKey node _ _ | port node _ _ | isolated node _ | unused node _
  | secret node _ _ | openAiKey node _ | fewReplicas node _ _ => some node
  | incompatible edge .. => some edge.target
  | orphan _ | several .. | cycle .. => none

/-- The id of the connection that a finding is about. -/
def edge? : Finding → Option String
  | orphan edge | selfConnection edge _ => some edge
  | incompatible edge .. => some edge.id
  | _ => none

/-- The ids of the instances that are involved beside the one that a finding is about. -/
def related : Finding → List String
  | duplicateName _ _ holders => holders
  | variableCollision _ _ _ nodes => nodes
  | incompatible edge .. => [edge.source, edge.target]
  | several _ members => members.map Member.id
  | cycle first rest => (first :: rest).map Member.id
  | _ => []

def method? : Finding → Option String
  | nameFault _ method _ _ | argumentFault _ method _ _ _ => some method
  | noReference .. => some "WithReference"
  | _ => none

def parameter? : Finding → Option String
  | invalidName .. => some "instanceName"
  | invalidDatabase .. => some "databaseName"
  | nameFault .. => some "name"
  | argumentFault _ _ p _ _ => some p.name
  | _ => none

end Finding

/-! ## Issues -/

/-- A finding as it is reported. -/
structure Issue where
  id : String
  severity : Severity
  family : Family
  message : String
  node? : Option String
  edge? : Option String
  details : Option String
  suggestion : Option String
  related : List String
  method? : Option String
  parameter? : Option String
deriving DecidableEq, Repr

def Finding.issue (f : Finding) : Issue where
  id := f.id
  severity := f.severity
  family := f.family
  message := f.message
  node? := f.node?
  edge? := f.edge?
  details := f.details
  suggestion := f.suggestion
  related := f.related
  method? := f.method?
  parameter? := f.parameter?

end Validation
end HostTopology
