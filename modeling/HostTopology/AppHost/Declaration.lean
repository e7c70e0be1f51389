import HostTopology.Render.Options

/-!
# Declaration — the statements of an AppHost

An AppHost declares each resource by a statement: a variable, the call that adds the resource, and
calls chained to it. A logical database is declared by a statement after the one of its server.

* `OpeningCall`, `ChainCall`, `Statement`, `Declaration` — the parts;
* `Declaration.render` — their text.
-/

namespace HostTopology
namespace AppHost

/-! ## Calls -/

/-- The call that adds a resource, or a database to a server. -/
inductive OpeningCall where
  | generic (method name : String)
  | project (className name : String)
  | nodeApp (name : String)
  | viteApp (name : String)
  | pythonApp (name : String)
  | container (name image : String)
  | database (server name : String)
deriving DecidableEq, Repr

/-- A call chained to another. -/
inductive ChainCall where
  | persistentLifetime
  | portFromEnv
  | endpoint (host : Option String) (target : String)
  | environment (key value : String)
  | bindMount (source target : String)
  | replicas (count : Int)
  | reference (name : String)
  | waitFor (name : String)
deriving DecidableEq, Repr

/-- The text between double quotes. -/
def literal (s : String) : String :=
  "\"" ++ s ++ "\""

namespace OpeningCall

/-- The text after the variable. -/
def render : OpeningCall → String
  | generic method name => "builder." ++ method ++ "(" ++ literal name ++ ")"
  | project className name => "builder.AddProject<Projects." ++ className ++ ">(" ++ literal name ++ ")"
  | nodeApp name => "builder.AddNodeApp(" ++ literal name ++ ", " ++ literal ("../" ++ name) ++ ")"
  | viteApp name => "builder.AddViteApp(" ++ literal name ++ ", " ++ literal ("../" ++ name) ++ ")"
  | pythonApp name =>
    "builder.AddPythonApp(" ++ literal name ++ ", " ++ literal ("../" ++ name) ++ ", "
      ++ literal "main.py" ++ ")"
  | container name image =>
    "builder.AddContainer(" ++ literal name ++ ", " ++ literal image ++ ", " ++ literal "latest" ++ ")"
  | database server name => server ++ ".AddDatabase(" ++ literal name ++ ")"

end OpeningCall

namespace ChainCall

/-- The name of the method that is called. -/
def method : ChainCall → String
  | persistentLifetime => "WithLifetime"
  | portFromEnv => "WithHttpEndpoint"
  | endpoint .. => "WithHttpEndpoint"
  | environment .. => "WithEnvironment"
  | bindMount .. => "WithBindMount"
  | replicas _ => "WithReplicas"
  | reference _ => "WithReference"
  | waitFor _ => "WaitFor"

def arguments : ChainCall → String
  | persistentLifetime => "ContainerLifetime.Persistent"
  | portFromEnv => "env: " ++ literal "PORT"
  | endpoint none target => "targetPort: " ++ target
  | endpoint (some host) target => "port: " ++ host ++ ", targetPort: " ++ target
  | environment key value => literal key ++ ", " ++ literal value
  | bindMount source target => literal source ++ ", " ++ literal target
  | replicas count => toString count
  | reference name => name
  | waitFor name => name

def render (c : ChainCall) : String :=
  "." ++ c.method ++ "(" ++ c.arguments ++ ")"

/-- The number that a call writes. -/
def number? : ChainCall → Option Int
  | replicas count => some count
  | _ => none

end ChainCall

/-! ## Statements -/

structure Statement where
  name : String
  opening : OpeningCall
  chain : List ChainCall
deriving DecidableEq, Repr

/-- Every chained call stands on a line of its own. -/
def Statement.render (indent : String) (s : Statement) : String :=
  "var " ++ s.name ++ " = " ++ s.opening.render
    ++ String.join (s.chain.map fun c => "\n" ++ indent ++ c.render) ++ ";"

/-- The statements of one resource, under its display name. -/
structure Declaration where
  displayName : String
  statements : List Statement
deriving DecidableEq, Repr

/-- The numbers that a declaration writes. -/
def Declaration.numbers (d : Declaration) : List Int :=
  d.statements.flatMap fun s => s.chain.filterMap ChainCall.number?

def Declaration.render (options : RenderOptions) (d : Declaration) : String :=
  let text := "\n".intercalate (d.statements.map (Statement.render options.indent))
  if options.includeComments then "// " ++ d.displayName ++ "\n" ++ text else text

end AppHost
end HostTopology
