import HostTopology.Compose.Image
import HostTopology.Compose.Service
import HostTopology.Import.Collection
import HostTopology.Naming

/-!
# Reader — a topology from a compose file

Every service becomes an instance, and every dependency a connection from the service that is needed.
Where two services have one name, the name stands for the later one.
-/

namespace HostTopology
namespace Compose

/-- The type of a service that no other type is found for. -/
def genericType : String := "container"

namespace Service

/-- The image, or the name of a service without one. -/
def product (s : Service) : String :=
  match s.image with
  | some image => if image = "" then s.name else image
  | none => s.name

def draft (r : Registry) (s : Service) : Draft where
  resourceType := (resourceTypeOf? r s.product).getD genericType
  name := Naming.sanitizeServiceName s.name
  database := none
  config := ⟨s.envVars, s.ports, s.volumes, none, none⟩

def warnings (r : Registry) (s : Service) : List String :=
  let name := Naming.sanitizeServiceName s.name
  (if (resourceTypeOf? r s.product).isNone then
    ["Could not map service \"" ++ s.name ++ "\" to an Aspire resource; using a generic container"]
   else [])
  ++ if name ≠ s.name then ["Service \"" ++ s.name ++ "\" renamed to \"" ++ name ++ "\""] else []

end Service

/-- An instance for a service. -/
def readService (r : Registry) (c : Collection) (s : Service) : Collection :=
  (c.warn (s.warnings r)).add s.name (s.draft r)

/-- Joins what a service needs to the service. -/
def readDependency (s : Service) (target : String) (c : Collection) (dependency : String) : Collection :=
  match c.aliases.lookup dependency with
  | none => c.warn ["Service \"" ++ s.name ++ "\" depends on unknown service \"" ++ dependency ++ "\""]
  | some source => c.join source target

/-- What a service depends on. There is an instance for its name by then. -/
def readDependencies (c : Collection) (s : Service) : Collection :=
  match c.aliases.lookup s.name with
  | none => c
  | some target => s.dependsOn.foldl (readDependency s target) c

def nothingFound : String :=
  "No services found in the docker-compose file. Make sure it contains a valid services section."

end Compose

open Compose

/-- All services come before their dependencies, so that a service can need one that is declared later. -/
def Collection.ofCompose (r : Registry) (reserved : List String) (text : String) : Collection :=
  let services := Compose.services text
  let c := services.foldl readDependencies (services.foldl (readService r) (.start reserved))
  if c.drafts.isEmpty then c.warn [nothingFound] else c

end HostTopology
