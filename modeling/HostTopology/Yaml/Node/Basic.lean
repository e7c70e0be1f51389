import HostTopology.Yaml.Scalar
import HostTopology.Yaml.Token

/-!
# Node — the graph that a text writes down

A node is a scalar, a sequence or a mapping with its tag. Nodes have numbers, and a collection holds
the numbers of its parts: an alias is one more place with the number of the node it names, so that a
collection can hold itself.
-/

namespace HostTopology
namespace Yaml

inductive Node where
  | scalar (tag : String) (content : Text.Points)
  | sequence (tag : String) (items : List Nat)
  | mapping (tag : String) (entries : List (Nat × Nat))
deriving Inhabited

namespace Node

/-! ## Tags -/

def sequenceTag : String := Scalar.tagLead ++ "seq"

def mappingTag : String := Scalar.tagLead ++ "map"

def setTag : String := Scalar.tagLead ++ "set"

def orderedMappingTag : String := Scalar.tagLead ++ "omap"

def pairsTag : String := Scalar.tagLead ++ "pairs"

def timestampTag : String := (Scalar.Kind.timestamp).tag

def textTag : String := (Scalar.Kind.text).tag

def mergeTag : String := (Scalar.Kind.merge).tag

/-- The tag of a key whose value stands for the whole mapping where a scalar is wanted. -/
def defaultTag : String := (Scalar.Kind.defaultValue).tag

/-! ## Operations -/

def empty : Node :=
  .scalar (Scalar.Kind.null).tag (.whole "")

def tag : Node → String
  | scalar t _ => t
  | sequence t _ => t
  | mapping t _ => t

def withTag (t : String) : Node → Node
  | scalar _ content => .scalar t content
  | sequence _ items => .sequence t items
  | mapping _ entries => .mapping t entries

end Node

/-- The nodes of a text by their numbers. -/
abbrev Graph := Array Node

namespace Graph

def node (g : Graph) (id : Nat) : Node :=
  g.getD id .empty

/-- The number of entries of all mappings. -/
def entryCount (g : Graph) : Nat :=
  g.foldl (fun n x => match x with
    | .mapping _ entries => n + entries.length
    | _ => n) 0

end Graph
end Yaml
end HostTopology
