import HostTopology.Artifacts
import HostTopology.Canvas
import HostTopology.Document.Printer
import HostTopology.Import.Format
import HostTopology.Template

/-!
# Session — editing a topology step by step

An `Edit` is a step that changes a topology. `Topology.edit` takes it; a step that fails tells why
and leaves the topology as it was.
-/

namespace HostTopology

/-! ## Steps -/

/-- A change of one instance. -/
inductive Change where
  | rename (name : String)
  | database (name : Option String)
  | envVar (key value : String)
  | port (container : String) (host : Option String)
  | volume (source target : String)
  | config (fields : Value)

inductive Edit where
  | add (i : ResourceInstance)
  | replace (i : ResourceInstance)
  | update (id : String) (change : Change)
  | remove (id : String)
  | connect (source target : String) (kind : ConnectionKind) (id : String)
  | disconnect (id : String)
  | append (format : Format) (fileName text : String)
  | load (text : String)
  | template (id : String)
  | reload
  | redraw
  | recompile (options : RenderOptions)

inductive EditError where
  | missing (id : String)
  | misfit (violations : List Shape.Violation)
  | numeral (e : Text.NumeralError)
  | compile (e : CompileError)
  | document (e : DocumentError)
  | canvas (e : Canvas.Error)
  | template (e : UnknownTemplate)

/-! ## Taking steps -/

namespace Change

def misfitOf {α : Type} : Shape.Checked α → Except EditError α
  | .ok a => .ok a
  | .bad violations => .error (.misfit violations)
  | .broken e => .error (.numeral e)

def apply (i : ResourceInstance) : Change → Except EditError ResourceInstance
  | rename name => .ok (i.rename name)
  | database name => .ok (i.withDatabase name)
  | envVar key value => .ok (i.withEnvVar key value)
  | port container host => .ok (i.withPort container host)
  | volume source target => .ok (i.withVolume source target)
  | config fields => do
    return { i with config := ← misfitOf (i.config.updated fields) }

end Change

namespace Topology

def missingOf (id : String) : Option Topology → Except EditError Topology
  | some t => .ok t
  | none => .error (.missing id)

/-- Changes the instance with an id, which has to be there. -/
def change (t : Topology) (id : String) (change : Change) : Except EditError Topology :=
  match t.find? id with
  | none => .error (.missing id)
  | some i => do missingOf id (t.replaceInstance? (← change.apply i))

/-- Imports a file with the ids that are present reserved. -/
def appended (r : Registry) (t : Topology) (format : Format) (fileName text : String) :
    Except EditError Imported := do
  let imported ← (format.read r t.ids fileName text).mapError .numeral
  return { imported with topology := t.append imported.topology }

/-- The topology after a step, with the notes of an import. -/
def edit (r : Registry) (t : Topology) (e : Edit) : Except EditError Imported :=
  match e with
  | .add i => .ok ⟨t.addInstance i, []⟩
  | .replace i => return ⟨← missingOf i.id (t.replaceInstance? i), []⟩
  | .update id change => return ⟨← t.change id change, []⟩
  | .remove id => .ok ⟨t.removeInstance id, []⟩
  | .connect source target kind id => .ok ⟨t.connect source target kind id, []⟩
  | .disconnect id => .ok ⟨t.disconnect id, []⟩
  | .append format fileName text => t.appended r format fileName text
  | .load text => return ⟨← (ofDocumentText "<string>" text).mapError .document, []⟩
  | .template id => return ⟨(← (Template.find id).mapError .template).topology, []⟩
  | .reload => return ⟨← (ofDocumentText "<string>" t.toDocumentText).mapError .document, []⟩
  | .redraw => return ⟨← (ofCanvas (t.canvasNodes r) t.canvasEdges).mapError .canvas, []⟩
  | .recompile options => do
    let artifacts ← (t.compile r options).mapError .compile
    (Format.appHost.read r [] "" artifacts.appHost).mapError .numeral

/-- The topology after steps of which those that fail change nothing. -/
def editAll (r : Registry) (t : Topology) (edits : List Edit) : Topology :=
  edits.foldl (fun t e => match t.edit r e with | .ok s => s.topology | .error _ => t) t

end Topology
end HostTopology
