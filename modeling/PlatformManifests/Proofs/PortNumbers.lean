import PlatformManifests.Proofs.Requirements
import PlatformManifests.Proofs.Wiring
import PlatformManifests.Proofs.Workloads

/-!
Numbers of ports. The ports of a service have different names, but their numbers come from entries
of the model that nothing keeps apart. Where a component has more than one port, both its service
and its process have them all, so that equal numbers clash in both.
-/
namespace PlatformManifests

variable {model : Model} {config : Configuration} {descriptor : Descriptor}

/-! ### Ports that are apart -/

/-- The ports of a service, and those of each container of a pod, have different numbers. -/
structure Resource.PortsApart (resource : Resource) : Prop where
  service : ∀ service, resource.service? = some service →
    (service.ports.map ServicePort.port).Nodup
  containers : ∀ template, resource.template? = some template →
    ∀ container ∈ template.spec.initContainers ++ template.spec.containers,
      (container.ports.map ContainerPort.containerPort).Nodup

def ResourceSet.PortsApart (set : ResourceSet) : Prop :=
  ∀ key resource, set.get? key = some resource → resource.PortsApart

/-! ### Outlets -/

/-- The name of a port, and the key of its number in the model. -/
structure Outlet where
  name : String
  key : String
deriving DecidableEq

/-- The model has different numbers for the outlets. -/
def Model.Separates (model : Model) (outlets : List Outlet) : Prop :=
  (outlets.map fun outlet => model.port outlet.key).Nodup

theorem Model.separates_of_short {outlets : List Outlet} (short : outlets.length ≤ 1) :
    model.Separates outlets := by
  match outlets, short with
  | [], _ => exact List.nodup_nil
  | [_], _ => exact List.nodup_singleton _

theorem Model.separates_pair {first second : Outlet} :
    model.Separates [first, second] ↔ model.port first.key ≠ model.port second.key := by
  simp [Separates]

namespace Outlet

def Opens (model : Model) (outlet : Outlet) (port : ServicePort) : Prop :=
  port.name = outlet.name ∧ port.targetPort = outlet.name ∧ model.port outlet.key = .ok port.port

def Exposes (model : Model) (outlet : Outlet) (port : ContainerPort) : Prop :=
  port.name = some outlet.name ∧ model.port outlet.key = .ok port.containerPort

theorem opens_tcp {name key : String} {port : UInt16} (found : model.port key = .ok port) :
    Opens model ⟨name, key⟩ (.tcp name port) :=
  ⟨rfl, rfl, found⟩

section Numbers

variable {α : Type} {number : α → UInt16} {outlets : List Outlet} {ports : List α}

theorem ok_injective : Function.Injective (Except.ok : UInt16 → Outcome UInt16) :=
  fun _ _ => Except.ok.inj

theorem map_port_eq
    (numbered : List.Forall₂ (fun outlet port => model.port outlet.key = .ok (number port))
      outlets ports) :
    (outlets.map fun outlet => model.port outlet.key) = (ports.map number).map Except.ok := by
  induction numbered with
  | nil => rfl
  | cons found _ ih => rw [List.map_cons, List.map_cons, List.map_cons, found, ih]

/-- Numbers that the model has for outlets are different exactly if the model separates them. -/
theorem nodup_numbers_iff
    (numbered : List.Forall₂ (fun outlet port => model.port outlet.key = .ok (number port))
      outlets ports) : (ports.map number).Nodup ↔ model.Separates outlets := by
  rw [Model.Separates, map_port_eq numbered, List.nodup_map_iff ok_injective]

theorem numbers_eq {numbers : List UInt16}
    (numbered : List.Forall₂ (fun outlet port => model.port outlet.key = .ok (number port))
      outlets ports)
    (known : (outlets.map fun outlet => model.port outlet.key) = numbers.map Except.ok) :
    ports.map number = numbers :=
  List.map_injective_iff.mpr ok_injective ((map_port_eq numbered).symm.trans known)

end Numbers

end Outlet

def Service.Opens (model : Model) (outlets : List Outlet) (service : Service) : Prop :=
  List.Forall₂ (Outlet.Opens model) outlets service.ports

/-- One container has the outlets, and those before it have no ports. -/
structure PodTemplate.Opens (model : Model) (outlets : List Outlet) (template : PodTemplate) :
    Prop where
  waiting : ∀ container ∈ template.spec.initContainers, container.ports = []
  main : ∃ container, template.spec.containers = [container] ∧
    List.Forall₂ (Outlet.Exposes model) outlets container.ports

theorem Service.Opens.names {outlets : List Outlet} {service : Service}
    (opens : service.Opens model outlets) :
    service.ports.map ServicePort.name = outlets.map Outlet.name := by
  unfold Service.Opens at opens
  generalize service.ports = ports at opens ⊢
  induction opens with
  | nil => rfl
  | cons first _ ih => rw [List.map_cons, List.map_cons, first.1, ih]

theorem Service.Opens.numbered {outlets : List Outlet} {service : Service}
    (opens : service.Opens model outlets) :
    List.Forall₂ (fun outlet port => model.port outlet.key = .ok port.port) outlets
      service.ports :=
  List.Forall₂.imp (fun _ _ opened => opened.2.2) opens

theorem Service.Opens.apart_iff {outlets : List Outlet} {service : Service}
    (opens : service.Opens model outlets) :
    (service.ports.map ServicePort.port).Nodup ↔ model.Separates outlets :=
  Outlet.nodup_numbers_iff opens.numbered

theorem PodTemplate.Opens.apart_iff {outlets : List Outlet} {template : PodTemplate}
    (opens : template.Opens model outlets) :
    (∀ container ∈ template.spec.initContainers ++ template.spec.containers,
      (container.ports.map ContainerPort.containerPort).Nodup) ↔ model.Separates outlets := by
  obtain ⟨waiting, main, only, exposed⟩ := opens
  have numbers := Outlet.nodup_numbers_iff (exposed.imp fun _ _ exposes => exposes.2)
  rw [List.forall_mem_append, only, List.forall_mem_singleton, numbers]
  refine and_iff_right fun container member => ?_
  rw [waiting container member]
  exact List.nodup_nil

/-! ### Components -/

/-- What the services and the pods of a descriptor open, under their keys. -/
structure Descriptor.Offers (model : Model) (services pods : List (String × List Outlet))
    (descriptor : Descriptor) : Prop where
  services : Catalogued descriptor.get? Resource.service? (Service.Opens model) services
  pods : Catalogued descriptor.get? Resource.template? (PodTemplate.Opens model) pods

theorem Tabulated.unseen {α β : Type} {view : Resource → Option β} {fits : α → β → Prop}
    {resources : List Resource} (none : ∀ resource ∈ resources, view resource = none) :
    Tabulated view fits resources [] := by
  induction resources with
  | nil => exact .nil
  | cons resource rest ih =>
    obtain ⟨first, later⟩ := List.forall_mem_cons.mp none
    exact .skip first (ih later)

/-- The workload comes first, and then the service with the same ports. -/
theorem Owner.offers {owner : Owner} {component : String} {pod : PodSpec} {ports : List ServicePort}
    {outlets : List Outlet} {workload : Resource} {others : List Resource}
    (listed : Descriptor.ofResources component
      (workload :: owner.internalService config ports :: others) = .ok descriptor)
    (running : workload.template? = some (owner.podTemplate pod))
    (noService : workload.service? = none) (steps : List WaitStep)
    (first : pod.initContainers = initContainers steps) {container : Container}
    (only : pod.containers = [container])
    (exposed : container.ports = ports.map ServicePort.exposed)
    (opens : List.Forall₂ (Outlet.Opens model) outlets ports)
    (rest : ∀ other ∈ others, other.service? = none ∧ other.template? = none) :
    descriptor.Offers model [(Kind.keyOf .service owner.service, outlets)]
      [(workload.key, outlets)] := by
  have lists := (Descriptor.ofResources_eq_ok.mp listed).2.2
  have exposes : List.Forall₂ (Outlet.Exposes model) outlets (ports.map ServicePort.exposed) :=
    List.forall₂_map_right_iff.mpr
      (opens.imp fun _ _ opened => ⟨congrArg some opened.2.1, opened.2.2⟩)
  have template : (owner.podTemplate pod).Opens model outlets := by
    refine ⟨fun waiting member => ?_, container, only, exposed ▸ exposes⟩
    rw [podTemplate, first] at member
    obtain ⟨step, _, rfl⟩ := List.mem_map.mp member
    rfl
  constructor
  · refine Tabulated.catalogued ?_ lists
    exact .skip noService (.entry rfl rfl opens (.unseen fun other member => (rest other member).1))
  · refine Tabulated.catalogued ?_ lists
    exact .entry rfl running template
      (.skip rfl (.unseen fun other member => (rest other member).2))

namespace Database

def outlets : List Outlet := [⟨"postgres", PortKey.postgres⟩]

theorem offers (made : generate model config = .ok descriptor) :
    descriptor.Offers model [(Kind.keyOf .service service, outlets)] [(workload, outlets)] := by
  obtain ⟨port, env, check, image, size, found, _, _, _, _, listed⟩ := generate_ok made
  refine owner.offers listed rfl rfl [] rfl rfl rfl (.cons (Outlet.opens_tcp found) .nil) ?_
  simp only [List.forall_mem_cons]
  exact ⟨⟨rfl, rfl⟩, ⟨rfl, rfl⟩, List.forall_mem_nil _⟩

end Database

namespace Cache

def outlets : List Outlet := [⟨"redis", PortKey.redis⟩]

theorem offers (made : generate model config = .ok descriptor) :
    descriptor.Offers model [(Kind.keyOf .service service, outlets)] [(workload, outlets)] := by
  obtain ⟨port, image, password, found, _, _, listed⟩ := generate_ok made
  exact owner.offers listed rfl rfl [] rfl rfl rfl (.cons (Outlet.opens_tcp found) .nil)
    (List.forall_mem_nil _)

end Cache

namespace SearchIndex

def outlets : List Outlet := [⟨"http", PortKey.elasticsearch⟩]

theorem offers (made : generate model config = .ok descriptor) :
    descriptor.Offers model [(Kind.keyOf .service service, outlets)] [(workload, outlets)] := by
  obtain ⟨port, env, image, size, found, _, _, _, listed⟩ := generate_ok made
  refine owner.offers listed rfl rfl [] rfl rfl rfl (.cons (Outlet.opens_tcp found) .nil) ?_
  simp only [List.forall_mem_cons]
  exact ⟨⟨rfl, rfl⟩, ⟨rfl, rfl⟩, List.forall_mem_nil _⟩

end SearchIndex

namespace ObjectStore

def outlets : List Outlet := [⟨"api", PortKey.minioApi⟩, ⟨"console", PortKey.minioConsole⟩]

theorem offers (made : generate model config = .ok descriptor) :
    descriptor.Offers model [(Kind.keyOf .service service, outlets)] [(workload, outlets)] := by
  obtain ⟨apiPort, consolePort, env, image, size, api, console, _, _, _, listed⟩ :=
    generate_ok made
  refine owner.offers listed rfl rfl [] rfl rfl rfl
    (.cons (Outlet.opens_tcp api) (.cons (Outlet.opens_tcp console) .nil)) ?_
  simp only [List.forall_mem_cons]
  exact ⟨⟨rfl, rfl⟩, ⟨rfl, rfl⟩, ⟨rfl, rfl⟩, List.forall_mem_nil _⟩

end ObjectStore

namespace IdentityProvider

def outlets : List Outlet :=
  [⟨"http", PortKey.keycloakHttp⟩, ⟨"management", PortKey.keycloakManagement⟩]

theorem offers (made : generate model config = .ok descriptor) :
    descriptor.Offers model [(Kind.keyOf .service service, outlets)] [(workload, outlets)] := by
  obtain ⟨httpPort, managementPort, databasePort, env, image, check, database, replicas, http,
    management, _, _, _, _, _, _, listed⟩ := generate_ok made
  refine owner.offers listed rfl rfl [database] rfl rfl rfl
    (.cons (Outlet.opens_tcp http) (.cons (Outlet.opens_tcp management) .nil)) ?_
  exact List.forall_mem_singleton.mpr ⟨rfl, rfl⟩

end IdentityProvider

namespace CatalogApi

def outlets : List Outlet := [⟨"http", PortKey.catalogApi⟩]

theorem offers (made : generate model config = .ok descriptor) :
    descriptor.Offers model [(Kind.keyOf .service service, outlets)] [(workload, outlets)] := by
  obtain ⟨port, waitImage, steps, image, env, replicas, found, _, _, _, _, _, listed⟩ :=
    generate_ok made
  exact owner.offers listed rfl rfl steps rfl rfl rfl (.cons (Outlet.opens_tcp found) .nil)
    (List.forall_mem_nil _)

end CatalogApi

theorem IngressRouter.offers (made : generate model config = .ok descriptor) :
    descriptor.Offers model [] [] := by
  obtain ⟨routes, _, listed⟩ := generate_ok made
  have lists := (Descriptor.ofResources_eq_ok.mp listed).2.2
  exact ⟨Tabulated.catalogued (.skip rfl (tabulated_certificates rfl)) lists,
    Tabulated.catalogued (.skip rfl (tabulated_certificates rfl)) lists⟩

/-- The job has no service, and no ports. -/
theorem InitJob.offers (made : generate model config = .ok descriptor) :
    descriptor.Offers model [] [(workload, [])] := by
  obtain ⟨steps, image, env, _, _, _, listed⟩ := generate_ok made
  have lists := (Descriptor.ofResources_eq_ok.mp listed).2.2
  have template : (owner.podTemplate (pod steps ((Container.ofImage name image).withEnv env))).Opens
      model [] := by
    refine ⟨fun waiting member => ?_, _, rfl, .nil⟩
    obtain ⟨step, _, rfl⟩ := List.mem_map.mp member
    rfl
  constructor
  · refine Tabulated.catalogued ?_ lists
    exact .skip rfl (.skip rfl (.skip rfl (.skip rfl .nil)))
  · refine Tabulated.catalogued ?_ lists
    exact .skip rfl (.skip rfl (.skip rfl (.entry rfl rfl template .nil)))

/-! ### The platform -/

/-- What a generator opens. -/
structure Offer where
  generator : Generator
  services : List (String × List Outlet)
  pods : List (String × List Outlet)

def offers : List Offer :=
  [⟨Database.generator, [("service/postgres", Database.outlets)],
      [("statefulset/postgres", Database.outlets)]⟩,
    ⟨Cache.generator, [("service/redis", Cache.outlets)], [("statefulset/redis", Cache.outlets)]⟩,
    ⟨SearchIndex.generator, [("service/elasticsearch", SearchIndex.outlets)],
      [("statefulset/elasticsearch", SearchIndex.outlets)]⟩,
    ⟨ObjectStore.generator, [("service/minio", ObjectStore.outlets)],
      [("statefulset/minio", ObjectStore.outlets)]⟩,
    ⟨IdentityProvider.generator, [("service/keycloak", IdentityProvider.outlets)],
      [("deployment/keycloak", IdentityProvider.outlets)]⟩,
    ⟨CatalogApi.generator, [("service/catalog-api", CatalogApi.outlets)],
      [("deployment/catalog-api", CatalogApi.outlets)]⟩,
    ⟨IngressRouter.generator, [], []⟩, ⟨InitJob.generator, [], [("job/platform-init", [])]⟩]

theorem offers_kept : ∀ offer ∈ offers, ∀ descriptor,
    offer.generator.generate model config = .ok descriptor →
      descriptor.Offers model offer.services offer.pods := by
  simp only [offers, List.forall_mem_cons]
  exact ⟨fun _ => Database.offers, fun _ => Cache.offers, fun _ => SearchIndex.offers,
    fun _ => ObjectStore.offers, fun _ => IdentityProvider.offers, fun _ => CatalogApi.offers,
    fun _ => IngressRouter.offers, fun _ => InitJob.offers, List.forall_mem_nil _⟩

def serviceRosters : List (Generator × List (String × List Outlet)) :=
  offers.map fun offer => (offer.generator, offer.services)

def podRosters : List (Generator × List (String × List Outlet)) :=
  offers.map fun offer => (offer.generator, offer.pods)

def openServices : List (String × List Outlet) := serviceRosters.flatMap Prod.snd

def openPods : List (String × List Outlet) := podRosters.flatMap Prod.snd

theorem openServices_named : ∀ entry ∈ openServices, (entry.2.map Outlet.name).Nodup := by
  decide +kernel

/-- The services and workloads with two ports. -/
def twoPorted : List String :=
  ["service/minio", "statefulset/minio", "service/keycloak", "deployment/keycloak"]

theorem short_of_not_twoPorted : ∀ entry ∈ openServices ++ openPods, entry.1 ∉ twoPorted →
    entry.2.length ≤ 1 := by
  decide +kernel

theorem short_or_pair : ∀ entry ∈ openServices ++ openPods, entry.2.length ≤ 1 ∨
    entry.2 = ObjectStore.outlets ∨ entry.2 = IdentityProvider.outlets := by
  decide +kernel

theorem separates_all_iff :
    (∀ entry ∈ openServices ++ openPods, model.Separates entry.2) ↔
      model.port PortKey.minioApi ≠ model.port PortKey.minioConsole ∧
      model.port PortKey.keycloakHttp ≠ model.port PortKey.keycloakManagement := by
  have store : ("service/minio", ObjectStore.outlets) ∈ openServices ++ openPods := by
    decide +kernel
  have identity : ("service/keycloak", IdentityProvider.outlets) ∈ openServices ++ openPods := by
    decide +kernel
  constructor
  · intro all
    exact ⟨Model.separates_pair.mp (all _ store), Model.separates_pair.mp (all _ identity)⟩
  · rintro ⟨storeApart, identityApart⟩ entry listed
    rcases short_or_pair entry listed with short | same | same
    · exact Model.separates_of_short short
    · rw [same]
      exact Model.separates_pair.mpr storeApart
    · rw [same]
      exact Model.separates_pair.mpr identityApart

section Composed

variable {set : ResourceSet}

theorem offered_of_composed (composed : compose model config Generator.all = .ok set) :
    Catalogued set.get? Resource.service? (Service.Opens model) openServices ∧
      Catalogued set.get? Resource.template? (PodTemplate.Opens model) openPods := by
  have services : ∀ roster ∈ serviceRosters, ∀ descriptor,
      roster.1.generate model config = .ok descriptor →
        Catalogued descriptor.get? Resource.service? (Service.Opens model) roster.2 := by
    rw [serviceRosters, List.forall_mem_map]
    exact fun offer member descriptor made => (offers_kept offer member descriptor made).services
  have pods : ∀ roster ∈ podRosters, ∀ descriptor,
      roster.1.generate model config = .ok descriptor →
        Catalogued descriptor.get? Resource.template? (PodTemplate.Opens model) roster.2 := by
    rw [podRosters, List.forall_mem_map]
    exact fun offer member descriptor made => (offers_kept offer member descriptor made).pods
  exact ⟨catalogued_of_composed composed services, catalogued_of_composed composed pods⟩

theorem portsApart_of_separates (composed : compose model config Generator.all = .ok set)
    {key : String} {resource : Resource} (held : set.get? key = some resource)
    (separates : ∀ outlets, (key, outlets) ∈ openServices ++ openPods → model.Separates outlets) :
    resource.PortsApart := by
  obtain ⟨services, pods⟩ := offered_of_composed composed
  constructor
  · intro service seen
    obtain ⟨outlets, listed, opens⟩ := services.only held seen
    exact opens.apart_iff.mpr (separates outlets (List.mem_append_left _ listed))
  · intro template seen
    obtain ⟨outlets, listed, opens⟩ := pods.only held seen
    exact opens.apart_iff.mpr (separates outlets (List.mem_append_right _ listed))

theorem portsApart_iff_separates (composed : compose model config Generator.all = .ok set) :
    set.PortsApart ↔ ∀ entry ∈ openServices ++ openPods, model.Separates entry.2 := by
  obtain ⟨services, pods⟩ := offered_of_composed composed
  constructor
  · rintro apart ⟨key, outlets⟩ listed
    rcases List.mem_append.mp listed with inside | inside
    · obtain ⟨resource, service, held, seen, opens⟩ := services.all inside
      exact opens.apart_iff.mp ((apart key resource held).service service seen)
    · obtain ⟨resource, template, held, seen, opens⟩ := pods.all inside
      exact opens.apart_iff.mp ((apart key resource held).containers template seen)
  · intro separates key resource held
    exact portsApart_of_separates composed held fun outlets listed => separates _ listed

/-- The ports of every service have different names. All their numbers, and those of the ports of
every container, are different exactly if the model has different numbers for the two ports of the
object store, and for those of the identity provider. No other service or container has ports that
clash. -/
theorem compose_all_ports_apart_iff (composed : compose model config Generator.all = .ok set) :
    (∀ key resource service, set.get? key = some resource → resource.service? = some service →
      (service.ports.map ServicePort.name).Nodup) ∧
    (set.PortsApart ↔
      model.port PortKey.minioApi ≠ model.port PortKey.minioConsole ∧
      model.port PortKey.keycloakHttp ≠ model.port PortKey.keycloakManagement) ∧
    ∀ key resource, set.get? key = some resource → key ∉ twoPorted → resource.PortsApart := by
  refine ⟨?_, (portsApart_iff_separates composed).trans separates_all_iff, ?_⟩
  · intro key resource service held seen
    obtain ⟨outlets, listed, opens⟩ := (offered_of_composed composed).1.only held seen
    rw [opens.names]
    exact openServices_named _ listed
  · intro key resource held other
    refine portsApart_of_separates composed held fun outlets listed => ?_
    exact Model.separates_of_short (short_of_not_twoPorted _ listed other)

end Composed

theorem compose_demonstration_ports_apart :
    ∃ set, compose Model.standard Configuration.demonstration Generator.all = .ok set ∧
      set.PortsApart := by
  obtain ⟨set, composed⟩ := exists_compose_demonstration
  have different : Model.standard.port PortKey.minioApi ≠
        Model.standard.port PortKey.minioConsole ∧
      Model.standard.port PortKey.keycloakHttp ≠
        Model.standard.port PortKey.keycloakManagement := by
    decide +kernel
  exact ⟨set, composed, (compose_all_ports_apart_iff composed).2.1.mpr different⟩

/-- A valid model may have the same number for both ports of the object store. Then its service and
its process have that number twice. -/
theorem object_store_ports_clash :
    ∃ set resource service container,
      compose (Model.standard.withPort PortKey.minioConsole 9000) Configuration.demonstration
        Generator.all = .ok set ∧
      set.get? "service/minio" = some resource ∧ resource.service? = some service ∧
      service.ports.map ServicePort.port = [9000, 9000] ∧
      set.mainContainer? "statefulset/minio" = some container ∧
      container.ports.map ContainerPort.containerPort = [9000, 9000] ∧ ¬ set.PortsApart := by
  obtain ⟨plain, started⟩ := exists_compose_demonstration
  have nonzero : (9000 : UInt16) ≠ 0 := by decide
  obtain ⟨set, composed⟩ := exists_compose_withPort started PortKey.minioConsole nonzero
  have known : (ObjectStore.outlets.map fun outlet =>
      (Model.standard.withPort PortKey.minioConsole 9000).port outlet.key) =
        [9000, 9000].map Except.ok := by decide +kernel
  obtain ⟨services, pods⟩ := offered_of_composed composed
  have reached : ("service/minio", ObjectStore.outlets) ∈ openServices := by decide +kernel
  have run : ("statefulset/minio", ObjectStore.outlets) ∈ openPods := by decide +kernel
  obtain ⟨resource, service, held, seen, opens⟩ := services.all reached
  obtain ⟨workload, template, running, given, _, container, only, exposed⟩ := pods.all run
  have main : set.mainContainer? "statefulset/minio" = some container := by
    rw [ResourceSet.mainContainer?, running, Option.bind_some,
      Resource.mainContainer?_eq_some given only]
  have numbers := Outlet.numbers_eq opens.numbered known
  refine ⟨set, resource, service, container, composed, held, seen, numbers, main,
    Outlet.numbers_eq (exposed.imp fun _ _ exposes => exposes.2) known, fun apart => ?_⟩
  have different := (apart _ _ held).service service seen
  rw [numbers] at different
  exact absurd different (by decide)

end PlatformManifests
