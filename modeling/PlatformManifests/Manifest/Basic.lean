import PlatformManifests.Manifest.Metadata

/-!
Manifests: an object of the cluster with its API version, kind and metadata, and a body that
depends on the kind of object.
-/
namespace PlatformManifests

open Reading

/-- The kinds of objects that the platform is made of. -/
inductive Kind where
  | serviceAccount
  | role
  | roleBinding
  | configMap
  | volumeClaim
  | service
  | statefulSet
  | deployment
  | job
  | certificate
  | ingress
deriving DecidableEq, Repr

namespace Kind

def name : Kind → String
  | .serviceAccount => "ServiceAccount"
  | .role => "Role"
  | .roleBinding => "RoleBinding"
  | .configMap => "ConfigMap"
  | .volumeClaim => "PersistentVolumeClaim"
  | .service => "Service"
  | .statefulSet => "StatefulSet"
  | .deployment => "Deployment"
  | .job => "Job"
  | .certificate => "Certificate"
  | .ingress => "Ingress"

/-- The name in lower case. -/
def keyName : Kind → String
  | .serviceAccount => "serviceaccount"
  | .role => "role"
  | .roleBinding => "rolebinding"
  | .configMap => "configmap"
  | .volumeClaim => "persistentvolumeclaim"
  | .service => "service"
  | .statefulSet => "statefulset"
  | .deployment => "deployment"
  | .job => "job"
  | .certificate => "certificate"
  | .ingress => "ingress"

def apiVersion : Kind → String
  | .serviceAccount => "v1"
  | .role => "rbac.authorization.k8s.io/v1"
  | .roleBinding => "rbac.authorization.k8s.io/v1"
  | .configMap => "v1"
  | .volumeClaim => "v1"
  | .service => "v1"
  | .statefulSet => "apps/v1"
  | .deployment => "apps/v1"
  | .job => "batch/v1"
  | .certificate => "cert-manager.io/v1"
  | .ingress => "networking.k8s.io/v1"

def all : List Kind :=
  [.serviceAccount, .role, .roleBinding, .configMap, .volumeClaim, .service, .statefulSet,
    .deployment, .job, .certificate, .ingress]

def ofName? (name : String) : Option Kind := all.find? fun kind => kind.name = name

/-- What is applied last, whatever its kind. -/
def lastRank : Nat := 10

/-- Objects of a lower rank are applied first, so that an object finds what it refers to. -/
def rank : Kind → Nat
  | .serviceAccount => 2
  | .role => 3
  | .roleBinding => 4
  | .configMap => 5
  | .volumeClaim => 6
  | .service => 7
  | .statefulSet => 8
  | .deployment => 8
  | .job => 9
  | .certificate => lastRank
  | .ingress => lastRank

/-- The rank of a kind given by name; kinds that are not known come last. -/
def rankOfName (name : String) : Nat := ((ofName? name).map rank).getD lastRank

/-- Workloads run containers. -/
def isWorkload (kind : Kind) : Bool := kind = .statefulSet || kind = .deployment || kind = .job

end Kind

/-- A manifest keeps the API version and the kind that it was read with. -/
structure Manifest (β : Type) where
  apiVersion : String
  kind : String
  metadata : Metadata
  body : β
deriving DecidableEq

/-- The part of a manifest that depends on the kind of object. -/
class Body (β : Type) where
  kind : Kind
  /-- The fields after the metadata. -/
  fields : List String
  read : Members Json → RecordPart β
  write : β → List (String × Option Json)

namespace Manifest

variable {β : Type} [Body β]

def ofBody (metadata : Metadata) (body : β) : Manifest β where
  apiVersion := (Body.kind β).apiVersion
  kind := (Body.kind β).name
  metadata := metadata
  body := body

def shape (β : Type) [Body β] : Shape :=
  ⟨(Body.kind β).name, ["apiVersion", "kind", "metadata"] ++ Body.fields β, false⟩

def read (json : Json) : Except Fault (Manifest β) :=
  readRecord (shape β) (fun members =>
    Manifest.mk <$> members.withDefault "apiVersion" readText (Body.kind β).apiVersion
      <*> members.withDefault "kind" readText (Body.kind β).name
      <*> members.required "metadata" Metadata.read
      <*> Body.read members) json

def toJson (manifest : Manifest β) : Json :=
  .record ([
    ("apiVersion", some (.str manifest.apiVersion)),
    ("kind", some (.str manifest.kind)),
    ("metadata", some manifest.metadata.toJson)] ++ Body.write manifest.body)

end Manifest

end PlatformManifests
