import HostTopology.Document.Reader
import HostTopology.Yaml.Tree.Printer

/-!
# Printer — a topology as a document

`Topology.toDocument` is the tree of a topology and `Topology.toDocumentText` its text. What has its
default value is left out of an instance. Environment variables are a mapping unless a key occurs
twice.
-/

namespace HostTopology

open Yaml

namespace Document

def portText (p : PortMapping) : String :=
  match p.host with
  | some host => if host = "" then p.container else host ++ ":" ++ p.container
  | none => p.container

def volumeText (v : VolumeMount) : String :=
  v.source ++ ":" ++ v.target

def envTree (vars : List EnvVar) : Tree :=
  if (vars.map EnvVar.key).Nodup then
    .mapping (vars.map fun v => (v.key, .text v.value))
  else
    .list (vars.map fun v => .mapping [("key", .text v.key), ("value", .text v.value)])

/-- An entry for a list that is not empty. -/
def entryUnlessEmpty {α : Type} (name : String) (items : List α) (tree : List α → Tree) :
    List (String × Tree) :=
  if items.isEmpty then [] else [(name, tree items)]

/-- An entry for a value that is there. -/
def entryIfSome {α : Type} (name : String) (value : Option α) (tree : α → Tree) : List (String × Tree) :=
  (value.map fun a => (name, tree a)).toList

def instanceTree (i : ResourceInstance) : Tree :=
  .mapping <|
    [("id", .text i.id), ("type", .text i.resourceType), ("name", .text i.name)]
      ++ entryIfSome "database" i.database .text
      ++ entryIfSome "persistent" i.config.persistent .bool
      ++ entryUnlessEmpty "env" i.config.envVars envTree
      ++ entryUnlessEmpty "ports" i.config.ports (fun ps => .list (ps.map fun p => .text (portText p)))
      ++ entryUnlessEmpty "volumes" i.config.volumes
        (fun vs => .list (vs.map fun v => .text (volumeText v)))
      ++ entryIfSome "replicas" i.config.replicas .int

def connectionTree (c : Connection) : Tree :=
  .mapping [("id", .text c.id), ("source", .text c.source), ("target", .text c.target),
    ("kind", .text c.kind.name)]

end Document

namespace Topology

def toDocument (t : Topology) : Tree :=
  .mapping [("version", .text Document.version),
    ("instances", .list (t.instances.map Document.instanceTree)),
    ("connections", .list (t.connections.map Document.connectionTree))]

def toDocumentText (t : Topology) : String :=
  t.toDocument.render

end Topology
end HostTopology
