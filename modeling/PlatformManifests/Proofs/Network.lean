import PlatformManifests.Composition
import PlatformManifests.Proofs.Composition
import PlatformManifests.Proofs.Endpoint
import PlatformManifests.Proofs.Route

/-!
The network of a resource set. It is wired if every endpoint that a resource refers to belongs to a
service of the set, and if services and probes refer to ports that the pods expose. Each component
is wired on its own, against the ports that all components together offer; labels keep the pods
of different components apart.
-/
namespace PlatformManifests

namespace Resource

def template? : Resource → Option PodTemplate
  | .statefulSet manifest => some manifest.body.template
  | .deployment manifest => some manifest.body.template
  | .job manifest => some manifest.body.template
  | _ => none

def service? : Resource → Option Service
  | .service manifest => some manifest.body
  | _ => none

/-- Where a route passes requests on to. -/
def backends : Resource → List Endpoint
  | .ingress manifest =>
    manifest.body.rules.flatMap fun rule => rule.http.paths.map fun path =>
      ⟨path.backend.service.name, path.backend.service.port.number.toNat⟩
  | _ => []

/-- A container of the workload has variables with all of the names. -/
def HasVariables (names : List String) (resource : Resource) : Prop :=
  ∃ template, resource.template? = some template ∧
    ∃ container ∈ template.spec.containers, ∀ name ∈ names, name ∈ container.env.map EnvVar.name

end Resource

/-! ### Pods -/

/-- The variables that hold addresses inside the cluster. -/
def addressVariables : List String :=
  ["REDIS_URL", "ELASTIC_URL", "MINIO_ENDPOINT", "KEYCLOAK_URL", "KC_DB_URL"]

/-- The ports that a probe connects to. -/
def Probe.ports (probe : Probe) : List UInt16 :=
  (probe.tcpSocket.map TcpAction.port).toList ++ (probe.httpGet.map HttpAction.port).toList

namespace Container

def probes (container : Container) : List Probe :=
  container.readinessProbe.toList ++ container.livenessProbe.toList

/-- The container makes an attempt at a known endpoint. -/
def WaitsFor (known : Endpoint → Prop) (container : Container) : Prop :=
  ∃ command endpoint, container.command = some command ∧
    Endpoint.ofCommand? command = some endpoint ∧ known endpoint

/-- The environment refers to known endpoints, and probes to ports of the container. -/
structure Wired (known : Endpoint → Prop) (container : Container) : Prop where
  addresses : ∀ env ∈ container.env, env.name ∈ addressVariables →
    ∃ value endpoint, env.value = some value ∧ Endpoint.ofAddress? value = some endpoint ∧
      known endpoint
  database : ∀ host ∈ container.env, ∀ port ∈ container.env, host.name = "DATABASE_HOST" →
    port.name = "DATABASE_PORT" → ∃ hostValue portValue endpoint, host.value = some hostValue ∧
      port.value = some portValue ∧ Endpoint.ofTexts? hostValue portValue = some endpoint ∧
      known endpoint
  probes : ∀ probe ∈ container.probes, ∀ port ∈ probe.ports,
    port ∈ container.ports.map ContainerPort.containerPort

end Container

namespace PodTemplate

structure Wired (known : Endpoint → Prop) (template : PodTemplate) : Prop where
  waits : ∀ container ∈ template.spec.initContainers, container.WaitsFor known
  containers : ∀ container ∈ template.spec.initContainers ++ template.spec.containers,
    container.Wired known

/-- A container has a port with the name and the number of a port of a service. -/
def Exposes (template : PodTemplate) (port : ServicePort) : Prop :=
  ∃ container ∈ template.spec.containers, ∃ exposed ∈ container.ports,
    exposed.name = some port.targetPort ∧ exposed.containerPort = port.port

theorem Wired.mono {known further : Endpoint → Prop} {template : PodTemplate}
    (wired : template.Wired known) (more : ∀ endpoint, known endpoint → further endpoint) :
    template.Wired further := by
  constructor
  · intro container member
    obtain ⟨command, endpoint, given, read, held⟩ := wired.waits container member
    exact ⟨command, endpoint, given, read, more endpoint held⟩
  · intro container member
    obtain ⟨addresses, database, probes⟩ := wired.containers container member
    refine ⟨fun env inside named => ?_, fun host inHost port inPort hostNamed portNamed => ?_, probes⟩
    · obtain ⟨value, endpoint, given, read, held⟩ := addresses env inside named
      exact ⟨value, endpoint, given, read, more endpoint held⟩
    · obtain ⟨hostValue, portValue, endpoint, hostGiven, portGiven, read, held⟩ :=
        database host inHost port inPort hostNamed portNamed
      exact ⟨hostValue, portValue, endpoint, hostGiven, portGiven, read, more endpoint held⟩

end PodTemplate

/-- The pods of the template have all of the labels. -/
def PodTemplate.Bears (template : PodTemplate) (labels : Dict String) : Prop :=
  ∀ label value, labels.get? label = some value →
    template.metadata.labels.get? label = some value

/-- The pods of the template have all labels that the service asks for. -/
def Service.Selects (service : Service) (template : PodTemplate) : Prop :=
  ∀ label value, service.selector.get? label = some value →
    template.metadata.labels.get? label = some value

/-! ### Sets -/

namespace ResourceSet

def Holds (set : ResourceSet) (resource : Resource) : Prop :=
  ∃ key, set.get? key = some resource

/-- A service of the set has the name and the port. -/
def Serves (set : ResourceSet) (endpoint : Endpoint) : Prop :=
  ∃ resource service, set.Holds resource ∧ resource.service? = some service ∧
    resource.name = endpoint.host ∧ ∃ port ∈ service.ports, port.port.toNat = endpoint.port

structure Wired (set : ResourceSet) : Prop where
  backends : ∀ resource, set.Holds resource → ∀ endpoint ∈ resource.backends, set.Serves endpoint
  pods : ∀ resource template, set.Holds resource → resource.template? = some template →
    template.Wired set.Serves
  services : ∀ resource service, set.Holds resource → resource.service? = some service →
    ∀ port ∈ service.ports, port.port ≠ 0 ∧
      (∃ workload template, set.Holds workload ∧ workload.template? = some template ∧
        service.Selects template) ∧
      ∀ workload template, set.Holds workload → workload.template? = some template →
        service.Selects template → template.Exposes port

theorem IsUnion.holds {set : ResourceSet} {descriptors : List Descriptor}
    (union : set.IsUnion descriptors) {descriptor : Descriptor} (member : descriptor ∈ descriptors)
    {resources : List Resource} (lists : descriptor.Lists resources) {resource : Resource}
    (inside : resource ∈ resources) : set.Holds resource :=
  ⟨resource.key, union.get?_eq_some_iff.mpr
    ⟨descriptor, member, (lists resource.key resource).mpr ⟨inside, rfl⟩⟩⟩

end ResourceSet

/-! ### Components -/

/-- A resource of a component with one kind of pod and one service at most. -/
structure Part (known : Endpoint → Prop) (owner : Owner) (pod : PodSpec)
    (ports : List ServicePort) (resource : Resource) : Prop where
  template : ∀ template, resource.template? = some template → template = owner.podTemplate pod
  service : ∀ service, resource.service? = some service →
    service.selector = owner.selector ∧ service.ports = ports
  backends : ∀ endpoint ∈ resource.backends, known endpoint

namespace Part

variable {known : Endpoint → Prop} {owner : Owner} {pod : PodSpec} {ports : List ServicePort}

theorem statefulSet (config : Configuration) :
    Part known owner pod ports (owner.statefulSet config pod) := by
  refine ⟨?_, ?_, ?_⟩
  · rintro _ ⟨⟩
    rfl
  · rintro _ ⟨⟩
  · rintro _ ⟨⟩

theorem deployment (config : Configuration) (replicas : UInt32) :
    Part known owner pod ports (owner.deployment config replicas pod) := by
  refine ⟨?_, ?_, ?_⟩
  · rintro _ ⟨⟩
    rfl
  · rintro _ ⟨⟩
  · rintro _ ⟨⟩

theorem job (metadata : Metadata) (backoffLimit : UInt32) :
    Part known owner pod ports
      (.job (.ofBody metadata ⟨backoffLimit, owner.podTemplate pod⟩)) := by
  refine ⟨?_, ?_, ?_⟩
  · rintro _ ⟨⟩
    rfl
  · rintro _ ⟨⟩
  · rintro _ ⟨⟩

theorem internalService (config : Configuration) :
    Part known owner pod ports (owner.internalService config ports) := by
  refine ⟨?_, ?_, ?_⟩
  · rintro _ ⟨⟩
  · rintro _ ⟨⟩
    exact ⟨rfl, rfl⟩
  · rintro _ ⟨⟩

theorem routed {model : Model} {config : Configuration} {name host : String}
    {annotations : Dict String} {rules : List PathRule}
    (targets : ∀ rule ∈ rules, known ⟨rule.service, rule.port.toNat⟩) :
    Part known owner pod ports (owner.routed model config name annotations host rules) := by
  refine ⟨?_, ?_, ?_⟩
  · rintro _ ⟨⟩
  · rintro _ ⟨⟩
  · intro endpoint member
    simp only [Owner.routed, Resource.backends, Manifest.ofBody, List.flatMap_singleton,
      List.map_map, List.mem_map] at member
    obtain ⟨rule, inside, rfl⟩ := member
    exact targets rule inside

theorem inert {resource : Resource} (noPod : resource.template? = none)
    (noService : resource.service? = none) (noRoute : resource.backends = []) :
    Part known owner pod ports resource := by
  refine ⟨?_, ?_, ?_⟩
  · intro template given
    rw [noPod] at given
    cases given
  · intro service given
    rw [noService] at given
    cases given
  · intro endpoint member
    rw [noRoute] at member
    cases member

end Part

/-- The resources of a component: what its pods refer to is known, and its service passes
connections on to ports that the pods expose. -/
structure Segment (known : Endpoint → Prop) (owner : Owner) (pod : PodSpec)
    (ports : List ServicePort) (resources : List Resource) : Prop where
  parts : ∀ resource ∈ resources, Part known owner pod ports resource
  wired : (owner.podTemplate pod).Wired known
  exposed : ∀ port ∈ ports, port.port ≠ 0 ∧ (owner.podTemplate pod).Exposes port
  running : ports ≠ [] →
    ∃ resource ∈ resources, resource.template? = some (owner.podTemplate pod)
  reached : ports ≠ [] → ∃ resource ∈ resources, ∃ service, resource.service? = some service ∧
    resource.name = owner.service

end PlatformManifests
