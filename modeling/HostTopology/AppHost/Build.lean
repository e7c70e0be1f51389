import HostTopology.AppHost.Declaration
import HostTopology.Naming
import HostTopology.Topology.Typed

/-!
# Build — the declarations of a topology

* `Shape` — the forms that the opening call of a resource takes;
* `declare?` — the declaration of an instance, with its configuration and its incoming connections;
* `render`, `renderPlaceholder` — the text of an AppHost, and of one that errors stand in the way of.
-/

namespace HostTopology
namespace AppHost

open Naming

/-! ## Forms of the opening call -/

inductive Shape where
  | generic
  | project
  | nodeApp
  | viteApp
  | pythonApp
  | container
deriving DecidableEq, Repr

def Shape.name : Shape → String
  | generic => "generic"
  | project => "project"
  | nodeApp => "node-app"
  | viteApp => "vite-app"
  | pythonApp => "python-app"
  | container => "container"

def shapeOf (type : String) : Shape :=
  match type with
  | "dotnet-project" => .project
  | "node-app" => .nodeApp
  | "vite-app" => .viteApp
  | "python-app" => .pythonApp
  | "container" => .container
  | _ => .generic

/-- Calls that follow every opening call of a form. -/
def defaultChain : Shape → List ChainCall
  | .viteApp => [.portFromEnv]
  | .container => [.endpoint none "8080"]
  | _ => []

/-- Where the images of containers come from. -/
def imageRegistry : String := "myregistry/"

def openingCall (i : ResourceInstance) (method name : String) : OpeningCall :=
  match shapeOf i.resourceType with
  | .generic => .generic method i.name
  | .project => .project (capitalizeFirst name) i.name
  | .nodeApp => .nodeApp i.name
  | .viteApp => .viteApp i.name
  | .pythonApp => .pythonApp i.name
  | .container => .container i.name (imageRegistry ++ containerImageName i.name)

/-! ## Configuration -/

/-- A text that is not empty. -/
def present (s : String) : Bool :=
  s != ""

def endpointOf (p : PortMapping) : Option ChainCall :=
  if present p.container then some (.endpoint (p.host.filter present) p.container) else none

def environmentOf (v : EnvVar) : Option ChainCall :=
  if present v.key && present v.value then some (.environment v.key v.value) else none

def bindMountOf (v : VolumeMount) : Option ChainCall :=
  if present v.source && present v.target then some (.bindMount v.source v.target) else none

/-- One replica is what there is without a call. -/
def replicasOf (n : Int) : Option ChainCall :=
  if 1 < n then some (.replicas n) else none

/-- The calls for the configuration of an instance. A database server keeps its data unless it is
told not to. -/
def configChain (i : ResourceInstance) (category : ResourceCategory) : List ChainCall :=
  (if category = .database ∧ i.config.persistent ≠ some false then [.persistentLifetime] else [])
    ++ defaultChain (shapeOf i.resourceType)
    ++ i.config.envVars.filterMap environmentOf
    ++ i.config.ports.filterMap endpointOf
    ++ i.config.volumes.filterMap bindMountOf
    ++ (i.config.replicas.bind replicasOf).toList

/-! ## Connections -/

/-- The variable by which others refer to an instance: that of its logical database if it has one. -/
def referenceVariable (r : Registry) (i : ResourceInstance) : String :=
  variableName ((r.databaseOf? i).getD i.name)

/-- The calls for one source: a reference, and for a database server also waiting. -/
def sourceChain (r : Registry) (source : ResourceInstance) : List ChainCall :=
  let name := referenceVariable r source
  .reference name :: if r.categoryOf? source = some .database then [.waitFor name] else []

def referenceChain (r : Registry) (t : Topology) (id : String) : List ChainCall :=
  (t.incoming id).flatMap fun c =>
    match t.find? c.source with
    | some source => if present source.name then sourceChain r source else []
    | none => []

/-! ## Declarations -/

/-- The declaration of an instance. One without a name or of an unknown type has none. References
stand on the last statement. -/
def declare? (r : Registry) (t : Topology) (i : ResourceInstance) : Option Declaration :=
  if !present i.name then none
  else
    (r.find? i.resourceType).map fun type =>
      let name := variableName i.name
      let server : Statement := ⟨name, openingCall i type.builder.name name, configChain i type.category⟩
      let references := referenceChain r t i.id
      let statements := match r.databaseOf? i with
        | some database => [server, ⟨variableName database, .database name database, references⟩]
        | none => [{ server with chain := server.chain ++ references }]
      ⟨type.displayName, statements⟩

/-! ## Files -/

def builderLine : String := "var builder = DistributedApplication.CreateBuilder(args);"

def runLine : String := "builder.Build().Run();"

def emptyPrompt : String := "// Add resources by dragging them from the palette to the canvas"

def sdkLine (options : RenderOptions) : String :=
  "#:sdk Aspire.AppHost.Sdk@" ++ options.aspireVersion

def packageLines (packages : List String) : List String :=
  packages.map ("#:package " ++ ·) ++ if packages.isEmpty then [] else [""]

/-- Blocks with an empty line after each. -/
def spaced (blocks : List String) : List String :=
  blocks.flatMap fun b => [b, ""]

/-- The AppHost of the instances, which are in dependency order. -/
def render (r : Registry) (t : Topology) (options : RenderOptions) (ordered : List ResourceInstance) :
    String :=
  let declarations := (ordered.filterMap (declare? r t)).map (Declaration.render options)
  let body := if declarations.isEmpty then [emptyPrompt] else declarations
  "\n".intercalate <|
    [sdkLine options] ++ packageLines (r.requiredPackages (ordered.map ResourceInstance.resourceType))
      ++ spaced (builderLine :: body) ++ [runLine]

def numbered : Nat → List String → List String
  | _, [] => []
  | n, m :: ms => ("// " ++ toString n ++ ". " ++ m) :: numbered (n + 1) ms

/-- An AppHost that declares nothing and lists the messages in comments. -/
def renderPlaceholder (options : RenderOptions) (messages : List String) : String :=
  "\n".intercalate <|
    [sdkLine options, "", "// ⚠️ VALIDATION ERRORS - Fix these issues before generating code:", "//"]
      ++ numbered 1 messages
      ++ ["//", "// Fix the issues above and the code will be generated automatically.", ""]
      ++ spaced [builderLine, "// Your resources will appear here"] ++ [runLine]

end AppHost
end HostTopology
