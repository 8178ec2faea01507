import PlatformManifests.Descriptor
import PlatformManifests.Model.Keys
import PlatformManifests.Readiness
import PlatformManifests.Route
import PlatformManifests.Secret

/-!
Components of the platform, and what their resources have in common.

A generator makes the resources of one component from the model and the configuration alone.
Components refer to each other by the names of their services.
-/
namespace PlatformManifests

structure Generator where
  component : String
  generate : Model → Configuration → Outcome Descriptor

/-- The service that a resource belongs to, and the component of the service. -/
structure Owner where
  service : String
  component : String
deriving DecidableEq

namespace Owner

def label (owner : Owner) (metadata : Metadata) : Metadata :=
  (metadata.withLabel Label.name owner.service).withLabel Label.component owner.component

/-- Metadata of a resource, with the labels of its owner. -/
def metadata (owner : Owner) (config : Configuration) (name : String) : Metadata :=
  owner.label (.ofName name config.space)

def selector (owner : Owner) : Dict String := Label.selector owner.service owner.component

def podTemplate (owner : Owner) (spec : PodSpec) : PodTemplate :=
  ⟨⟨owner.selector.insert Label.partOf Label.platform⟩, spec⟩

/-- A stateful set of one pod, reached by the service of the same name. -/
def statefulSet (owner : Owner) (config : Configuration) (spec : PodSpec) : Resource :=
  .statefulSet (.ofBody (owner.metadata config owner.service)
    ⟨owner.service, 1, ⟨owner.selector⟩, owner.podTemplate spec⟩)

def deployment (owner : Owner) (config : Configuration) (replicas : UInt32) (spec : PodSpec) :
    Resource :=
  .deployment (.ofBody (owner.metadata config owner.service)
    ⟨replicas, ⟨owner.selector⟩, owner.podTemplate spec⟩)

/-- A service that is reached from inside the cluster only. -/
def internalService (owner : Owner) (config : Configuration) (ports : List ServicePort) :
    Resource :=
  .service (.ofBody (owner.metadata config owner.service) ⟨owner.selector, ports, "ClusterIP"⟩)

/-- A claim for storage that one node at a time writes to. -/
def volumeClaim (owner : Owner) (config : Configuration) (name size : String) : Resource :=
  .volumeClaim (.ofBody (owner.metadata config name)
    ⟨["ReadWriteOnce"], ⟨⟨size⟩⟩, config.storageClass⟩)

def route (owner : Owner) (model : Model) (config : Configuration) (name : String)
    (annotations : Dict String) (host : String) (rules : List PathRule) : Outcome Resource := do
  let route ← Route.build model config name annotations host rules
  .ok (.ingress { route with metadata := owner.label route.metadata })

end Owner

/-- The image that makes TCP and HTTP attempts. -/
def Model.waitImage (model : Model) : Outcome String := model.image ImageKey.wait

end PlatformManifests
