import HostTopology.Companion.Files
import HostTopology.Validation.Report

/-!
# Artifacts — everything that is generated for a topology

`Topology.compile` validates, orders and renders. Errors block it: then the AppHost is a placeholder
that lists them, and nothing else is generated. `CompileError` tells what cannot be written: an indent
whose size is out of range, or a number of replicas with too many digits.
-/

namespace HostTopology

structure Artifacts where
  appHost : String
  requiredPackages : List String
  deploymentCommands : List String
  settings : String
  buildFile : String
  manifest : String
  blockingErrors : List String
deriving DecidableEq, Repr

inductive CompileError where
  | numeral (e : Text.NumeralError)
  | indent (e : IndentError)
deriving DecidableEq, Repr

namespace Artifacts

def isBlocked (a : Artifacts) : Bool :=
  !a.blockingErrors.isEmpty

def blocked (options : RenderOptions) (messages : List String) : Artifacts where
  appHost := AppHost.renderPlaceholder options messages
  requiredPackages := []
  deploymentCommands := []
  settings := ""
  buildFile := ""
  manifest := ""
  blockingErrors := messages

/-- What is generated for the instances of a topology in a given order. -/
def ofOrdered (r : Registry) (options : RenderOptions) (t : Topology) (ordered : List ResourceInstance) :
    Artifacts where
  appHost := AppHost.render r t options ordered
  requiredPackages := r.requiredPackages (ordered.map ResourceInstance.resourceType)
  deploymentCommands := Companion.deploymentCommands
  settings := Companion.settingsText r ordered
  buildFile := Companion.buildFileText ordered
  manifest := Companion.manifestText r ordered
  blockingErrors := []

/-- The indent of the declarations of instances. Where nothing is declared none is written. -/
def indent? (r : Registry) (options : RenderOptions) (t : Topology) (ordered : List ResourceInstance) :
    Except IndentError String :=
  if ordered.all fun i => (AppHost.declare? r t i).isNone then .ok "" else options.indent?

/-- The numbers that are written for the instances of a topology in a given order. -/
def numbers (r : Registry) (t : Topology) (ordered : List ResourceInstance) : List Int :=
  (ordered.filterMap (AppHost.declare? r t)).flatMap AppHost.Declaration.numbers
    ++ Companion.manifestNumbers r ordered

end Artifacts

def Topology.compile (r : Registry) (options : RenderOptions) (t : Topology) :
    Except CompileError Artifacts := do
  let report ← (t.validate r).mapError .numeral
  if report.isValid then
    let ordered := t.sequence.ordered
    let _ ← (Artifacts.indent? r options t ordered).mapError .indent
    let _ ← ((Artifacts.numbers r t ordered).mapM Text.writeNumeral).mapError .numeral
    return .ofOrdered r options t ordered
  else
    return .blocked options (report.blocking.map Validation.Finding.message)

end HostTopology
