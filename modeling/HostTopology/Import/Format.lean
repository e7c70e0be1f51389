import HostTopology.AppHost.Reader
import HostTopology.Compose.Reader
import HostTopology.Dockerfile.Reader

/-!
# Format — the formats that a topology can be imported from
-/

namespace HostTopology

inductive Format where
  | appHost
  | compose
  | dockerfile
deriving DecidableEq, Repr

namespace Format

def all : List Format :=
  [appHost, compose, dockerfile]

def name : Format → String
  | appHost => "apphost"
  | compose => "compose"
  | dockerfile => "dockerfile"

def ofName? (s : String) : Option Format :=
  all.find? fun f => f.name = s

theorem ofName?_name (f : Format) : ofName? f.name = some f := by
  cases f <;> decide

/-- The topology in a file, with ids that are not reserved. Only the name of a Dockerfile matters. -/
def read (f : Format) (r : Registry) (reserved : List String) (fileName text : String) :
    Except Text.NumeralError Imported :=
  match f with
  | appHost => (Collection.ofAppHost r reserved text).map Collection.imported
  | compose => .ok (Collection.ofCompose r reserved text).imported
  | dockerfile => .ok (Imported.ofDockerfile reserved fileName text)

end Format
end HostTopology
