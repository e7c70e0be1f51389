import HostTopology.Catalog.Registry
import HostTopology.Topology.Basic

/-!
# Typed — instances as their types describe them

* `labelOf`, `titleOf` — what an instance is called in messages;
* `categoryOf?` — the category of its type;
* `databaseOf?` — its logical database, which only some types can have.
-/

namespace HostTopology
namespace Registry

/-- The display name of an instance's type. -/
def labelOf (r : Registry) (i : ResourceInstance) : String :=
  r.displayName i.resourceType

/-- The name of an instance; an instance without a name is shown by its label. -/
def titleOf (r : Registry) (i : ResourceInstance) : String :=
  if i.name = "" then r.labelOf i else i.name

def categoryOf? (r : Registry) (i : ResourceInstance) : Option ResourceCategory :=
  r.category? i.resourceType

/-- The logical database of an instance, if its type has databases and the name is not empty. -/
def databaseOf? (r : Registry) (i : ResourceInstance) : Option String :=
  if r.allowsDatabase i.resourceType then i.database.filter (· ≠ "") else none

end Registry
end HostTopology
