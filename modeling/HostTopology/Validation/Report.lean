import HostTopology.Validation.Rules

/-!
# Report — everything that validation finds in a topology

`Topology.validate` runs the families of rules one after the other. A `Report` is valid if there is
no error in it.
-/

namespace HostTopology
namespace Validation

structure Report where
  findings : List Finding
deriving DecidableEq, Repr

namespace Report

def issues (v : Report) : List Issue :=
  v.findings.map Finding.issue

def count (v : Report) (s : Severity) : Nat :=
  v.findings.countP fun f => f.severity = s

/-- The findings that stand in the way of generating code. -/
def blocking (v : Report) : List Finding :=
  v.findings.filter fun f => f.severity = .error

def isValid (v : Report) : Bool :=
  v.blocking.isEmpty

/-- The findings that an instance is part of. -/
def about (v : Report) (node : String) : List Finding :=
  v.findings.filter fun f => f.node? = some node || f.related.contains node

end Report
end Validation

open Validation

/-- All findings, family by family. -/
def Topology.validate (r : Registry) (t : Topology) : Except Text.NumeralError Report := do
  let methods ← t.instances.mapM (checkMethods r t)
  let configuration ← t.instances.mapM (checkConfiguration r)
  return ⟨checkNaming r t ++ methods.flatten ++ t.connections.flatMap (checkConnection r t)
    ++ configuration.flatten ++ checkArchitecture r t ++ t.instances.flatMap checkSecurity
    ++ t.instances.flatMap (checkPerformance r t) ++ checkCycles r t⟩

end HostTopology
