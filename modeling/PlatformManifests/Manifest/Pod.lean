import PlatformManifests.Manifest.Container

/-!
Pods: containers that run together, the volumes that they mount, and the template from which a
workload makes its pods.
-/
namespace PlatformManifests

open Reading

/-! ### Volumes -/

structure ConfigMapVolume where
  name : String
deriving DecidableEq

namespace ConfigMapVolume

def shape : Shape := ⟨"ConfigMapVolumeSource", ["name"], false⟩

def read (json : Json) : Except Fault ConfigMapVolume :=
  readRecord shape (fun members => ConfigMapVolume.mk <$> members.required "name" readText) json

def toJson (volume : ConfigMapVolume) : Json := .record [("name", some (.str volume.name))]

end ConfigMapVolume

structure ClaimVolume where
  claimName : String
deriving DecidableEq

namespace ClaimVolume

def shape : Shape := ⟨"PvcVolumeSource", ["claimName"], false⟩

def read (json : Json) : Except Fault ClaimVolume :=
  readRecord shape (fun members => ClaimVolume.mk <$> members.required "claimName" readText) json

def toJson (volume : ClaimVolume) : Json := .record [("claimName", some (.str volume.claimName))]

end ClaimVolume

/-- A directory that is empty when the pod starts. -/
structure ScratchVolume where
deriving DecidableEq

namespace ScratchVolume

def shape : Shape := ⟨"EmptyDirVolumeSource", [], false⟩

def read (json : Json) : Except Fault ScratchVolume :=
  readRecord shape (fun _ => .value ⟨⟩) json

def toJson (_ : ScratchVolume) : Json := .record []

end ScratchVolume

structure Volume where
  name : String
  configMap : Option ConfigMapVolume
  emptyDir : Option ScratchVolume
  claim : Option ClaimVolume
deriving DecidableEq

namespace Volume

def ofConfigMap (name configMap : String) : Volume := ⟨name, some ⟨configMap⟩, none, none⟩

def scratch (name : String) : Volume := ⟨name, none, some ⟨⟩, none⟩

def ofClaim (name claim : String) : Volume := ⟨name, none, none, some ⟨claim⟩⟩

def shape : Shape := ⟨"Volume", ["name", "configMap", "emptyDir", "persistentVolumeClaim"], false⟩

def read (json : Json) : Except Fault Volume :=
  readRecord shape (fun members =>
    Volume.mk <$> members.required "name" readText
      <*> members.optional "configMap" ConfigMapVolume.read
      <*> members.optional "emptyDir" ScratchVolume.read
      <*> members.optional "persistentVolumeClaim" ClaimVolume.read) json

def toJson (volume : Volume) : Json :=
  .record [
    ("name", some (.str volume.name)),
    ("configMap", volume.configMap.map ConfigMapVolume.toJson),
    ("emptyDir", volume.emptyDir.map ScratchVolume.toJson),
    ("persistentVolumeClaim", volume.claim.map ClaimVolume.toJson)]

end Volume

/-! ### Pods -/

structure PodSecurity where
  fsGroup : Option Int64
deriving DecidableEq

namespace PodSecurity

def shape : Shape := ⟨"PodSecurityContext", ["fsGroup"], false⟩

def read (json : Json) : Except Fault PodSecurity :=
  readRecord shape (fun members => PodSecurity.mk <$> members.optional "fsGroup" readWide) json

def toJson (security : PodSecurity) : Json :=
  .record [("fsGroup", security.fsGroup.map fun group => Json.int group.toInt)]

end PodSecurity

structure PodSpec where
  serviceAccountName : Option String
  automountServiceAccountToken : Option Bool
  initContainers : List Container
  containers : List Container
  volumes : List Volume
  restartPolicy : Option String
  securityContext : Option PodSecurity
deriving DecidableEq

namespace PodSpec

def ofContainers (containers : List Container) : PodSpec :=
  ⟨none, none, [], containers, [], none, none⟩

def shape : Shape :=
  ⟨"PodSpec", ["serviceAccountName", "automountServiceAccountToken", "initContainers",
    "containers", "volumes", "restartPolicy", "securityContext"], false⟩

def read (json : Json) : Except Fault PodSpec :=
  readRecord shape (fun members =>
    PodSpec.mk <$> members.optional "serviceAccountName" readText
      <*> members.optional "automountServiceAccountToken" readBoolean
      <*> members.withDefault "initContainers" (readList Container.read) []
      <*> members.required "containers" (readList Container.read)
      <*> members.withDefault "volumes" (readList Volume.read) []
      <*> members.optional "restartPolicy" readText
      <*> members.optional "securityContext" PodSecurity.read) json

def toJson (pod : PodSpec) : Json :=
  .record [
    ("serviceAccountName", pod.serviceAccountName.map .str),
    ("automountServiceAccountToken", pod.automountServiceAccountToken.map .bool),
    ("initContainers", writtenList Container.toJson pod.initContainers),
    ("containers", some (.array (pod.containers.map Container.toJson))),
    ("volumes", writtenList Volume.toJson pod.volumes),
    ("restartPolicy", pod.restartPolicy.map .str),
    ("securityContext", pod.securityContext.map PodSecurity.toJson)]

end PodSpec

structure PodMetadata where
  labels : Dict String
deriving DecidableEq

namespace PodMetadata

def shape : Shape := ⟨"PodMeta", ["labels"], false⟩

def read (json : Json) : Except Fault PodMetadata :=
  readRecord shape (fun members => PodMetadata.mk <$> members.required "labels" readTextDict) json

def toJson (metadata : PodMetadata) : Json := .record [("labels", some (.textDict metadata.labels))]

end PodMetadata

structure PodTemplate where
  metadata : PodMetadata
  spec : PodSpec
deriving DecidableEq

namespace PodTemplate

def shape : Shape := ⟨"PodTemplateSpec", ["metadata", "spec"], false⟩

def read (json : Json) : Except Fault PodTemplate :=
  readRecord shape (fun members =>
    PodTemplate.mk <$> members.required "metadata" PodMetadata.read
      <*> members.required "spec" PodSpec.read) json

def toJson (template : PodTemplate) : Json :=
  .record [("metadata", some template.metadata.toJson), ("spec", some template.spec.toJson)]

end PodTemplate

end PlatformManifests
