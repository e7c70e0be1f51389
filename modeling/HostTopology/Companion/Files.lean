import HostTopology.AppHost.Build
import HostTopology.Companion.Json
import HostTopology.Entries

/-!
# Files — what is generated beside the AppHost

* `settingsText` — a settings file with a placeholder for every connection string;
* `buildFileText` — a container build file to start from;
* `manifestText` — a manifest with an app for every project and container;
* `deploymentCommands` — the commands that run and deploy the application.
-/

namespace HostTopology
namespace Companion

def deploymentCommands : List String :=
  ["aspire run", "aspire deploy", "aspire deploy --environment staging", "aspire do diagnostics",
    "aspire do build"]

/-! ## Settings -/

/-- The name of the connection string of an instance: for a database server its database if it has
one. Only database servers, caches and brokers have connection strings. -/
def connectionKey? (r : Registry) (i : ResourceInstance) : Option String :=
  if i.name = "" then none
  else
    match r.categoryOf? i with
    | some .database => some ((i.database.filter AppHost.present).getD i.name)
    | some .cache | some .messaging => some i.name
    | _ => none

def placeholder (key : String) : String :=
  "\x7b" ++ key ++ ".connectionString\x7d"

/-- A connection string for every key, each key once. -/
def connectionStrings (r : Registry) (instances : List ResourceInstance) : List (String × String) :=
  (instances.filterMap (connectionKey? r)).foldl (fun acc k => Entries.put acc k (placeholder k)) []

def settings (r : Registry) (instances : List ResourceInstance) : Json :=
  .object [
    ("Logging", .object [("LogLevel", .object [
      ("Default", .text "Information"), ("Microsoft.AspNetCore", .text "Warning")])]),
    ("AllowedHosts", .text "*"),
    ("ConnectionStrings", .object ((connectionStrings r instances).map fun (k, v) => (k, .text v)))]

def settingsText (r : Registry) (instances : List ResourceInstance) : String :=
  (settings r instances).render

/-! ## Build file -/

def containerBuildFile : List String := [
  "# Dockerfile for custom container",
  "FROM alpine:latest",
  "WORKDIR /app",
  "COPY . .",
  "EXPOSE 8080",
  "CMD [\"./start.sh\"]"]

def projectBuildFile : List String := [
  "# Example Dockerfile for Aspire API projects",
  "FROM mcr.microsoft.com/dotnet/aspnet:9.0 AS base",
  "WORKDIR /app",
  "EXPOSE 8080",
  "",
  "FROM mcr.microsoft.com/dotnet/sdk:9.0 AS build",
  "WORKDIR /src",
  "COPY [\"YourProject.csproj\", \"./\"]",
  "RUN dotnet restore \"YourProject.csproj\"",
  "COPY . .",
  "RUN dotnet build \"YourProject.csproj\" -c Release -o /app/build",
  "",
  "FROM build AS publish",
  "RUN dotnet publish \"YourProject.csproj\" -c Release -o /app/publish",
  "",
  "FROM base AS final",
  "WORKDIR /app",
  "COPY --from=publish /app/publish .",
  "ENTRYPOINT [\"dotnet\", \"YourProject.dll\"]"]

def buildFileText (instances : List ResourceInstance) : String :=
  "\n".intercalate <|
    if instances.any fun i => i.resourceType = "container" then containerBuildFile else projectBuildFile

/-! ## Manifest -/

/-- The most replicas an app may scale to; ten if there is no count, or a count of zero. -/
def maxReplicas (i : ResourceInstance) : Int :=
  match i.config.replicas with
  | some n => if n = 0 then 10 else n
  | none => 10

def appEnv (i : ResourceInstance) : List Json :=
  (i.config.envVars.filter fun v => v.key != "" && v.value != "").map fun v =>
    .object [("name", .text v.key), ("value", .text v.value)]

def containerApp (i : ResourceInstance) : Json :=
  .object [
    ("name", .text i.name),
    ("properties", .object [
      ("configuration", .object [
        ("activeRevisionsMode", .text "Single"),
        ("ingress", .object [
          ("external", .bool true), ("targetPort", .number "8080"), ("transport", .text "http")]),
        ("registries", .list [])]),
      ("template", .object [
        ("containers", .list [.object [
          ("name", .text i.name),
          ("image", .text ("myregistry.azurecr.io/" ++ i.name ++ ":latest")),
          ("resources", .object [("cpu", .number "0.5"), ("memory", .text "1Gi")]),
          ("env", .list (appEnv i))]]),
        ("scale", .object [
          ("minReplicas", .number "1"), ("maxReplicas", .number (toString (maxReplicas i)))])])])]

/-- Projects and containers with a name become apps. -/
def isApp (r : Registry) (i : ResourceInstance) : Bool :=
  i.name != "" &&
    (r.categoryOf? i = some .project || r.categoryOf? i = some .container)

/-- The numbers that the manifest takes from the instances. -/
def manifestNumbers (r : Registry) (instances : List ResourceInstance) : List Int :=
  (instances.filter (isApp r)).map maxReplicas

def manifestText (r : Registry) (instances : List ResourceInstance) : String :=
  (Json.object [("containerApps", .list ((instances.filter (isApp r)).map containerApp))]).render

end Companion
end HostTopology
