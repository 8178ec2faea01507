import PlatformManifests.Error
import PlatformManifests.Manifest.Access
import PlatformManifests.Manifest.Ingress
import PlatformManifests.Manifest.Service
import PlatformManifests.Manifest.Workload

/-!
Resources: manifests of any kind. A resource is identified by its kind and its name, and the two
make up its key.
-/
namespace PlatformManifests

open Reading

inductive Resource where
  | serviceAccount (manifest : Manifest ServiceAccount)
  | role (manifest : Manifest Role)
  | roleBinding (manifest : Manifest RoleBinding)
  | configMap (manifest : Manifest ConfigMap)
  | volumeClaim (manifest : Manifest VolumeClaim)
  | service (manifest : Manifest Service)
  | statefulSet (manifest : Manifest StatefulSet)
  | deployment (manifest : Manifest Deployment)
  | job (manifest : Manifest Job)
  | certificate (manifest : Manifest Certificate)
  | ingress (manifest : Manifest Ingress)
deriving DecidableEq

namespace Resource

def kind : Resource → Kind
  | .serviceAccount _ => .serviceAccount
  | .role _ => .role
  | .roleBinding _ => .roleBinding
  | .configMap _ => .configMap
  | .volumeClaim _ => .volumeClaim
  | .service _ => .service
  | .statefulSet _ => .statefulSet
  | .deployment _ => .deployment
  | .job _ => .job
  | .certificate _ => .certificate
  | .ingress _ => .ingress

def metadata : Resource → Metadata
  | .serviceAccount manifest => manifest.metadata
  | .role manifest => manifest.metadata
  | .roleBinding manifest => manifest.metadata
  | .configMap manifest => manifest.metadata
  | .volumeClaim manifest => manifest.metadata
  | .service manifest => manifest.metadata
  | .statefulSet manifest => manifest.metadata
  | .deployment manifest => manifest.metadata
  | .job manifest => manifest.metadata
  | .certificate manifest => manifest.metadata
  | .ingress manifest => manifest.metadata

def name (resource : Resource) : String := resource.metadata.name

/-- The kind in lower case, a slash, and the name. -/
def key (resource : Resource) : String := resource.kind.keyName ++ "/" ++ resource.name

def isWorkload (resource : Resource) : Bool := resource.kind.isWorkload

def toJson : Resource → Json
  | .serviceAccount manifest => manifest.toJson
  | .role manifest => manifest.toJson
  | .roleBinding manifest => manifest.toJson
  | .configMap manifest => manifest.toJson
  | .volumeClaim manifest => manifest.toJson
  | .service manifest => manifest.toJson
  | .statefulSet manifest => manifest.toJson
  | .deployment manifest => manifest.toJson
  | .job manifest => manifest.toJson
  | .certificate manifest => manifest.toJson
  | .ingress manifest => manifest.toJson

/-- Reads a document as a resource of the given kind, whatever kind the document names. -/
def read (kind : Kind) (json : Json) : Except Fault Resource :=
  match kind with
  | .serviceAccount => (Manifest.read json).map .serviceAccount
  | .role => (Manifest.read json).map .role
  | .roleBinding => (Manifest.read json).map .roleBinding
  | .configMap => (Manifest.read json).map .configMap
  | .volumeClaim => (Manifest.read json).map .volumeClaim
  | .service => (Manifest.read json).map .service
  | .statefulSet => (Manifest.read json).map .statefulSet
  | .deployment => (Manifest.read json).map .deployment
  | .job => (Manifest.read json).map .job
  | .certificate => (Manifest.read json).map .certificate
  | .ingress => (Manifest.read json).map .ingress

end Resource

end PlatformManifests
