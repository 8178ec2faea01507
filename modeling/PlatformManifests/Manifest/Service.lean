import PlatformManifests.Manifest.Basic

/-!
Services, volume claims and config maps: what the pods of the platform are reached by, and what
they store and read.
-/
namespace PlatformManifests

open Reading

/-! ### Services -/

structure ServicePort where
  name : String
  port : UInt16
  /-- The name of the container port that connections are passed on to. -/
  targetPort : String
  protocol : String
deriving DecidableEq

namespace ServicePort

/-- A TCP port for the container port of the same name. -/
def tcp (name : String) (port : UInt16) : ServicePort := ⟨name, port, name, "TCP"⟩

def shape : Shape := ⟨"ServicePort", ["name", "port", "targetPort", "protocol"], false⟩

def read (json : Json) : Except Fault ServicePort :=
  readRecord shape (fun members =>
    ServicePort.mk <$> members.required "name" readText
      <*> members.required "port" readPort
      <*> members.required "targetPort" readText
      <*> members.required "protocol" readText) json

def toJson (port : ServicePort) : Json :=
  .record [
    ("name", some (.str port.name)),
    ("port", some (.int port.port.toNat)),
    ("targetPort", some (.str port.targetPort)),
    ("protocol", some (.str port.protocol))]

end ServicePort

structure Service where
  selector : Dict String
  ports : List ServicePort
  exposure : String
deriving DecidableEq

namespace Service

def shape : Shape := ⟨"ServiceSpec", ["selector", "ports", "type"], false⟩

def read (json : Json) : Except Fault Service :=
  readRecord shape (fun members =>
    Service.mk <$> members.required "selector" readTextDict
      <*> members.required "ports" (readList ServicePort.read)
      <*> members.required "type" readText) json

def toJson (service : Service) : Json :=
  .record [
    ("selector", some (.textDict service.selector)),
    ("ports", some (.array (service.ports.map ServicePort.toJson))),
    ("type", some (.str service.exposure))]

end Service

instance : Body Service where
  kind := .service
  fields := ["spec"]
  read members := members.required "spec" Service.read
  write body := [("spec", some body.toJson)]

/-! ### Volume claims -/

structure StorageRequest where
  storage : String
deriving DecidableEq

namespace StorageRequest

def shape : Shape := ⟨"PvcStorage", ["storage"], false⟩

def read (json : Json) : Except Fault StorageRequest :=
  readRecord shape (fun members => StorageRequest.mk <$> members.required "storage" readText) json

def toJson (request : StorageRequest) : Json := .record [("storage", some (.str request.storage))]

end StorageRequest

structure ClaimResources where
  requests : StorageRequest
deriving DecidableEq

namespace ClaimResources

def shape : Shape := ⟨"PvcResources", ["requests"], false⟩

def read (json : Json) : Except Fault ClaimResources :=
  readRecord shape (fun members =>
    ClaimResources.mk <$> members.required "requests" StorageRequest.read) json

def toJson (resources : ClaimResources) : Json :=
  .record [("requests", some resources.requests.toJson)]

end ClaimResources

structure VolumeClaim where
  accessModes : List String
  resources : ClaimResources
  storageClassName : Option String
deriving DecidableEq

namespace VolumeClaim

def shape : Shape := ⟨"PvcSpec", ["accessModes", "resources", "storageClassName"], false⟩

def read (json : Json) : Except Fault VolumeClaim :=
  readRecord shape (fun members =>
    VolumeClaim.mk <$> members.required "accessModes" readTexts
      <*> members.required "resources" ClaimResources.read
      <*> members.optional "storageClassName" readText) json

def toJson (claim : VolumeClaim) : Json :=
  .record [
    ("accessModes", some (.texts claim.accessModes)),
    ("resources", some claim.resources.toJson),
    ("storageClassName", claim.storageClassName.map .str)]

end VolumeClaim

instance : Body VolumeClaim where
  kind := .volumeClaim
  fields := ["spec"]
  read members := members.required "spec" VolumeClaim.read
  write body := [("spec", some body.toJson)]

/-! ### Config maps -/

structure ConfigMap where
  data : Dict String
deriving DecidableEq

instance : Body ConfigMap where
  kind := .configMap
  fields := ["data"]
  read members := ConfigMap.mk <$> members.withDefault "data" readTextDict ∅
  write body := [("data", writtenDict body.data)]

end PlatformManifests
