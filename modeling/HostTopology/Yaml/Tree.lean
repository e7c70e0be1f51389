import HostTopology.Value.Basic

/-!
# Tree — the data that is written as YAML

A tree has texts, whole numbers, truth values, lists, and mappings with texts for keys.
`Tree.value` is the value that a tree stands for.
-/

namespace HostTopology
namespace Yaml

inductive Tree where
  | text (s : String)
  | int (n : Int)
  | bool (b : Bool)
  | list (items : List Tree)
  | mapping (entries : List (String × Tree))
deriving Inhabited

namespace Tree

mutual

def value : Tree → Value
  | text s => .text s
  | int n => .int n
  | bool b => .bool b
  | list items => .list (valueAll items)
  | mapping entries => .mapping (valueEntries entries)

def valueAll : List Tree → List Value
  | [] => []
  | t :: ts => t.value :: valueAll ts

def valueEntries : List (String × Tree) → List (Value × Value)
  | [] => []
  | (k, t) :: es => (.text k, t.value) :: valueEntries es

end

end Tree
end Yaml
end HostTopology
