import HostTopology.Shape.Basic
import HostTopology.Topology.Basic

/-!
# Shape — a topology from loosely typed data

`Topology.ofValue` and `ResourceInstance.ofValue` read the parts of a topology under the names of
their fields. Texts have to be texts, and entries that are no fields are passed over.
-/

namespace HostTopology

open Shape

def EnvVar.ofValue : Reader EnvVar :=
  record fun fields =>
    EnvVar.mk <$> required "key" (text false) fields <*> required "value" (text false) fields

def PortMapping.ofValue : Reader PortMapping :=
  record fun fields =>
    PortMapping.mk <$> required "container" (text false) fields
      <*> withDefault "host" none (optional (text false)) fields

def VolumeMount.ofValue : Reader VolumeMount :=
  record fun fields =>
    VolumeMount.mk <$> required "source" (text false) fields <*> required "target" (text false) fields

/-- Fields that are not given keep the value they have in `base`. -/
def ResourceConfig.updated (base : ResourceConfig) : Reader ResourceConfig :=
  record fun fields =>
    ResourceConfig.mk <$> withDefault "env_vars" base.envVars (tuple EnvVar.ofValue) fields
      <*> withDefault "ports" base.ports (tuple PortMapping.ofValue) fields
      <*> withDefault "volumes" base.volumes (tuple VolumeMount.ofValue) fields
      <*> withDefault "replicas" base.replicas (optional int) fields
      <*> withDefault "persistent" base.persistent (optional bool) fields

def ResourceConfig.ofValue : Reader ResourceConfig :=
  ResourceConfig.empty.updated

def ResourceInstance.ofValue : Reader ResourceInstance :=
  record fun fields =>
    ResourceInstance.mk <$> required "id" (text false) fields
      <*> required "resource_type" (text false) fields
      <*> withDefault "instance_name" "" (text false) fields
      <*> withDefault "database_name" none (optional (text false)) fields
      <*> withDefault "config" .empty ResourceConfig.ofValue fields

def Connection.ofValue : Reader Connection :=
  record fun fields =>
    Connection.mk <$> required "id" (text false) fields
      <*> required "source_id" (text false) fields
      <*> required "target_id" (text false) fields
      <*> withDefault "kind" .reference (choice ConnectionKind.ofName?) fields

def Topology.ofValue : Reader Topology :=
  record fun fields =>
    Topology.mk <$> withDefault "instances" [] (tuple ResourceInstance.ofValue) fields
      <*> withDefault "connections" [] (tuple Connection.ofValue) fields

end HostTopology
