import HostTopology.Catalog.Registry
import HostTopology.Text.Blank

/-!
# Image — the resource type that an image stands for

`resourceTypeOf?` tries the name as the id of a type, then as part of the name of a declaring
method, and then looks for a known product in it, whatever the case of its letters.
-/

namespace HostTopology
namespace Compose

/-- Products, and the types of their resources. What comes first wins. -/
def products : List (String × String) := [
  ("postgres", "postgres"),
  ("postgresql", "postgres"),
  ("mysql", "mysql"),
  ("mariadb", "mysql"),
  ("mongo", "mongodb"),
  ("mongodb", "mongodb"),
  ("redis", "redis"),
  ("valkey", "valkey"),
  ("rabbitmq", "rabbitmq"),
  ("kafka", "kafka"),
  ("nats", "nats"),
  ("sqlserver", "sqlserver"),
  ("mssql", "sqlserver"),
  ("mcr.microsoft.com/mssql/server", "sqlserver"),
  ("oracle", "oracle"),
  ("ollama", "ollama"),
  ("nginx", "container"),
  ("node", "node-app"),
  ("python", "python-app")]

def productType? (lowered : List Char) : Option String :=
  (products.find? fun p => Text.contains p.1.toList lowered).map Prod.snd

def resourceTypeOf? (r : Registry) (name : String) : Option String :=
  let lowered := Text.lower name.toList
  let id := String.ofList lowered
  if (r.find? id).isSome then some id
  else
    match r.findByBuilder? ("add" ++ id) with
    | some type => some type.id
    | none => productType? lowered

end Compose
end HostTopology
