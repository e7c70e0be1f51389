import HostTopology.Text.Blank
import HostTopology.Topology.Shape
import HostTopology.Yaml.Node.Meaning

/-!
# Reader — a topology from a document

A topology document is a mapping with a version, a list of instances and a list of connections.

* `DocumentError` — why a document is refused, with its `message`;
* `parsePort`, `parseVolume?` — the texts in which ports and volumes are written;
* `Topology.ofDocument` — the topology in loosely typed data;
* `Topology.ofDocumentText` — the topology in a text.
-/

namespace HostTopology

open Shape

/-! ## Errors -/

/-- A scalar that its tag gives no value, such as a day that is not in the calendar, is
`unreadable`; a number that is wanted as text and has too many digits is a `numeral` error. All other
causes are about the document as such. -/
inductive DocumentError where
  | malformed (label : String)
  | notMapping (label : String)
  | unsupportedVersion (label version : String)
  | misfit (label : String) (violations : List Violation)
  | volumeForm (text : String)
  | unreadable (fault : Yaml.Fault)
  | numeral (e : Text.NumeralError)
deriving DecidableEq, Repr

def DocumentError.message : DocumentError → String
  | malformed label => "Invalid YAML in " ++ label
  | notMapping label => label ++ ": topology document must be a YAML mapping"
  | unsupportedVersion label version =>
    label ++ ": unsupported document version '" ++ version ++ "'"
  | misfit label _ => label ++ ": invalid topology document"
  | volumeForm text => "Volume '" ++ text ++ "' must have the form 'source:target'"
  | unreadable (.truthValue content) => content
  | unreadable _ => "unreadable scalar"
  | numeral _ => "number with too many digits"

/-! ## Entries -/

namespace Document

/-- The only version there is. -/
def version : String := "1"

/-- A host before the last colon; an empty host is none. -/
def parsePort (text : String) : PortMapping :=
  match Text.cutLast ':' text.toList with
  | (none, container) => ⟨String.ofList container, none⟩
  | (some host, container) =>
    ⟨String.ofList container, if host = [] then none else some (String.ofList host)⟩

/-- A source before the last colon and a target after it, none of them empty. -/
def parseVolume? (text : String) : Option VolumeMount :=
  match Text.cutLast ':' text.toList with
  | (some (s :: source), t :: target) => some ⟨String.ofList (s :: source), String.ofList (t :: target)⟩
  | _ => none

/-- The entry of an instance, before its ports and volumes are taken apart. -/
structure InstanceEntry where
  id : String
  type : String
  name : String
  database : Option String
  persistent : Option Bool
  env : List EnvVar
  ports : List String
  volumes : List String
  replicas : Option Int

def envEntry : Shape.Reader EnvVar :=
  closedRecord ["key", "value"] fun fields =>
    EnvVar.mk <$> required "key" (text true) fields <*> withDefault "value" "" (text true) fields

/-- Environment variables as a mapping, or as a list of entries. Where neither fits, both tell why. -/
def env : Shape.Reader (List EnvVar) := fun v =>
  let asMapping := (textMapping true v).under (.name "dict[str,str]")
  let asList := (list envEntry v).under (.name "list[_EnvEntry]")
  match asMapping, asList with
  | .ok pairs, _ => .ok (pairs.map fun (key, value) => ⟨key, value⟩)
  | .broken e, _ => .broken e
  | .bad us, .bad vs => .bad (us ++ vs)
  | .bad _, entries => entries

def instanceEntry : Shape.Reader InstanceEntry :=
  closedRecord ["id", "type", "name", "database", "persistent", "env", "ports", "volumes", "replicas"]
    fun fields =>
      InstanceEntry.mk <$> required "id" (text true) fields
        <*> required "type" (text true) fields
        <*> withDefault "name" "" (text true) fields
        <*> withDefault "database" none (optional (text true)) fields
        <*> withDefault "persistent" none (optional bool) fields
        <*> withDefault "env" [] env fields
        <*> withDefault "ports" [] (list (text true)) fields
        <*> withDefault "volumes" [] (list (text true)) fields
        <*> withDefault "replicas" none (optional int) fields

def connectionEntry : Shape.Reader Connection :=
  closedRecord ["id", "source", "target", "kind"] fun fields =>
    (fun id source target kind => Connection.make (id.getD "") source target kind)
      <$> withDefault "id" none (optional (text true)) fields
      <*> required "source" (text true) fields
      <*> required "target" (text true) fields
      <*> withDefault "kind" .reference (choice ConnectionKind.ofName?) fields

def document : Shape.Reader (List InstanceEntry × List Connection) :=
  closedRecord ["version", "instances", "connections"] fun fields =>
    (fun _ instances connections => (instances, connections))
      <$> withDefault "version" version (text true) fields
      <*> withDefault "instances" [] (list instanceEntry) fields
      <*> withDefault "connections" [] (list connectionEntry) fields

def mountsOf : List String → Except DocumentError (List VolumeMount)
  | [] => .ok []
  | text :: rest =>
    match parseVolume? text with
    | some v => (v :: ·) <$> mountsOf rest
    | none => .error (.volumeForm text)

def InstanceEntry.toInstance (e : InstanceEntry) : Except DocumentError ResourceInstance := do
  let mounts ← mountsOf e.volumes
  .ok ⟨e.id, e.type, e.name, e.database, ⟨e.env, e.ports.map parsePort, mounts, e.replicas, e.persistent⟩⟩

def instancesOf : List InstanceEntry → Except DocumentError (List ResourceInstance)
  | [] => .ok []
  | e :: rest => do
    let i ← e.toInstance
    .ok (i :: (← instancesOf rest))

/-- The text of the version in a document; the only version if none is given. -/
def versionOf (fields : Fields) : Except Text.NumeralError String :=
  ((Value.lookupEntry "version" fields).map Value.display).getD (.ok version)

end Document

/-! ## Documents -/

namespace Topology

/-- The topology in loosely typed data. `label` names the document in messages. -/
def ofDocument (label : String) (data : Value) : Except DocumentError Topology :=
  match data.entries? with
  | none => .error (.notMapping label)
  | some fields => do
    let version ← (Document.versionOf fields).mapError .numeral
    if version ≠ Document.version then .error (.unsupportedVersion label version)
    else
      match Document.document data with
      | .bad violations => .error (.misfit label violations)
      | .broken e => .error (.numeral e)
      | .ok (entries, connections) => do
        let instances ← Document.instancesOf entries
        .ok ⟨instances, connections⟩

/-- The topology in a text. -/
def ofDocumentText (label text : String) : Except DocumentError Topology :=
  match Value.ofYaml text with
  | .ok data => ofDocument label data
  | .error .malformed => .error (.malformed label)
  | .error fault => .error (.unreadable fault)

end Topology
end HostTopology
