import HostTopology.Catalog.Aspire
import HostTopology.Text.Letter

/-!
# Registry — looking up resource types

A `Registry` is a choice of resource types and chaining methods. A look-up of an unknown name finds
nothing. `Registry.standard` holds the whole catalog.
-/

namespace HostTopology

open Catalog

structure Registry where
  types : List ResourceType
  chaining : List ChainingMethod
deriving Repr

namespace Registry

def standard : Registry :=
  ⟨resourceTypes, chainingMethods⟩

/-- The members of the catalog with the given names, in the order of the names. -/
def choose (typeIds methodNames : List String) : Registry where
  types := typeIds.eraseDups.filterMap fun id => resourceTypes.find? fun t => t.id = id
  chaining := methodNames.eraseDups.filterMap fun name =>
    chainingMethods.find? fun m => m.method.name = name

/-! ## Types -/

def find? (r : Registry) (id : String) : Option ResourceType :=
  r.types.find? fun t => t.id = id

/-- The display name of a type; an unknown type is shown by its id. -/
def displayName (r : Registry) (id : String) : String :=
  ((r.find? id).map ResourceType.displayName).getD id

def category? (r : Registry) (id : String) : Option ResourceCategory :=
  (r.find? id).map ResourceType.category

/-- The type that a method declares, whatever the case of the method's letters. -/
def findByBuilder? (r : Registry) (method : String) : Option ResourceType :=
  r.types.reverse.find? fun t => Text.lower t.builder.name.toList = Text.lower method.toList

/-- Whether logical databases can be declared on a resource of the type. -/
def allowsDatabase (r : Registry) (id : String) : Bool :=
  ((r.find? id).bind fun t => t.child? "AddDatabase").isSome

/-! ## Chaining methods -/

def chainingMethod? (r : Registry) (name : String) : Option ChainingMethod :=
  r.chaining.find? fun m => m.method.name = name

/-- The chaining methods of a type, as far as the registry knows them. -/
def chainingOperations (r : Registry) (id : String) : List ChainingMethod :=
  match r.find? id with
  | some t => t.chaining.filterMap r.chainingMethod?
  | none => []

def supportsChaining (r : Registry) (id method : String) : Bool :=
  (r.find? id).any fun t => t.chaining.contains method

/-! ## Connections and packages -/

/-- Either the source says that the target's category may refer to it, or the target says that it
connects to the source's category. -/
def isConnectionValid (r : Registry) (source target : String) : Bool :=
  match r.find? source, r.find? target with
  | some s, some t => s.referencedBy.contains t.category || t.connectsTo.contains s.category
  | _, _ => false

/-- Sorted by code points. -/
def sortTexts (texts : List String) : List String :=
  texts.mergeSort fun a b => decide (a ≤ b)

/-- The packages that resources of the given types need, each once and sorted. -/
def requiredPackages (r : Registry) (ids : List String) : List String :=
  let specs := ids.filterMap fun id =>
    (r.find? id).bind fun t => if t.package = builtinPackage then none else some t.packageSpec
  sortTexts specs.eraseDups

end Registry
end HostTopology
