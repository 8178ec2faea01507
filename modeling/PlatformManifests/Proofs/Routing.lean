import PlatformManifests.Proofs.Catalogue
import PlatformManifests.Proofs.Generation
import PlatformManifests.Proofs.Requirements

/-!
Routing: the hosts that the platform serves, and where the requests for them go. Every ingress is
that of a gateway, and every gateway has its ingress; under https there is one certificate besides,
and otherwise none.
-/
namespace PlatformManifests

variable {model : Model} {config : Configuration} {descriptor : Descriptor}

def Resource.ingress? : Resource → Option (Manifest Ingress)
  | .ingress manifest => some manifest
  | _ => none

theorem Resource.ingress?_eq_some {resource : Resource} {manifest : Manifest Ingress} :
    resource.ingress? = some manifest ↔ resource = .ingress manifest := by
  cases resource <;> simp [ingress?]

/-- Requests with a path of the prefix go to a port of a service; the key is that of the port. -/
structure Target where
  pattern : String
  service : String
  key : String
deriving DecidableEq

def Target.Leads (model : Model) (target : Target) (path : IngressPath) : Prop :=
  ∃ port, model.port target.key = .ok port ∧
    (PathRule.ofPrefix target.pattern target.service port).toPath = path

/-- A host and all that is reached through it. -/
structure Gateway where
  subdomain : String
  targets : List Target
deriving DecidableEq

/-- The ingress serves the host of the gateway and no other, with paths to its targets. -/
structure Gateway.Opens (model : Model) (config : Configuration) (gateway : Gateway)
    (manifest : Manifest Ingress) : Prop where
  rules : ∃ paths, manifest.body.rules = [⟨config.host gateway.subdomain, ⟨paths⟩⟩] ∧
    List.Forall₂ (Target.Leads model) gateway.targets paths
  tls : manifest.body.tls = Route.tls config (config.host gateway.subdomain)

def Descriptor.Serves (model : Model) (config : Configuration) (gateways : List (String × Gateway))
    (descriptor : Descriptor) : Prop :=
  Catalogued descriptor.get? Resource.ingress? (Gateway.Opens model config) gateways

theorem Owner.key_routed {owner : Owner} {name host : String} {annotations : Dict String}
    {rules : List PathRule} :
    (owner.routed model config name annotations host rules).key = Kind.keyOf .ingress name := by
  have identity := @Owner.identity_routed owner model config name host annotations rules
  exact congrArg (fun object : Kind × String => object.1.keyOf object.2) identity

/-! ### Components -/

theorem Database.serves (made : generate model config = .ok descriptor) :
    descriptor.Serves model config [] := by
  obtain ⟨port, env, check, image, size, _, _, _, _, _, listed⟩ := generate_ok made
  have lists := (Descriptor.ofResources_eq_ok.mp listed).2.2
  refine Tabulated.catalogued ?_ lists
  exact .skip rfl (.skip rfl (.skip rfl (.skip rfl .nil)))

theorem Cache.serves (made : generate model config = .ok descriptor) :
    descriptor.Serves model config [] := by
  obtain ⟨port, image, password, _, _, _, listed⟩ := generate_ok made
  have lists := (Descriptor.ofResources_eq_ok.mp listed).2.2
  refine Tabulated.catalogued ?_ lists
  exact .skip rfl (.skip rfl .nil)

namespace SearchIndex

def route : String := Kind.keyOf .ingress service

def gateway (config : Configuration) : Gateway :=
  ⟨config.subdomains.search, [⟨"/", service, PortKey.elasticsearch⟩]⟩

theorem serves (made : generate model config = .ok descriptor) :
    descriptor.Serves model config [(route, gateway config)] := by
  obtain ⟨port, env, image, size, found, _, _, _, listed⟩ := generate_ok made
  have lists := (Descriptor.ofResources_eq_ok.mp listed).2.2
  have leads : List.Forall₂ (Target.Leads model) (gateway config).targets
      ([PathRule.ofPrefix "/" service port].map PathRule.toPath) :=
    .cons ⟨port, found, rfl⟩ .nil
  refine Tabulated.catalogued ?_ lists
  exact .skip rfl (.skip rfl (.skip rfl (.entry Owner.key_routed rfl ⟨⟨_, rfl, leads⟩, rfl⟩ .nil)))

end SearchIndex

namespace ObjectStore

def apiGateway (config : Configuration) : Gateway :=
  ⟨config.subdomains.storage, [⟨"/", service, PortKey.minioApi⟩]⟩

def consoleGateway (config : Configuration) : Gateway :=
  ⟨config.subdomains.storageConsole, [⟨"/", service, PortKey.minioConsole⟩]⟩

def gateways (config : Configuration) : List (String × Gateway) :=
  [(Kind.keyOf .ingress apiRoute, apiGateway config),
    (Kind.keyOf .ingress consoleRoute, consoleGateway config)]

theorem serves (made : generate model config = .ok descriptor) :
    descriptor.Serves model config (gateways config) := by
  obtain ⟨apiPort, consolePort, env, image, size, apiFound, consoleFound, _, _, _, listed⟩ :=
    generate_ok made
  have lists := (Descriptor.ofResources_eq_ok.mp listed).2.2
  have api : List.Forall₂ (Target.Leads model) (apiGateway config).targets
      ([PathRule.ofPrefix "/" service apiPort].map PathRule.toPath) :=
    .cons ⟨apiPort, apiFound, rfl⟩ .nil
  have console : List.Forall₂ (Target.Leads model) (consoleGateway config).targets
      ([PathRule.ofPrefix "/" service consolePort].map PathRule.toPath) :=
    .cons ⟨consolePort, consoleFound, rfl⟩ .nil
  refine Tabulated.catalogued ?_ lists
  refine .skip rfl (.skip rfl (.skip rfl ?_))
  refine .entry Owner.key_routed rfl ⟨⟨_, rfl, api⟩, rfl⟩ ?_
  exact .entry Owner.key_routed rfl ⟨⟨_, rfl, console⟩, rfl⟩ .nil

end ObjectStore

namespace IdentityProvider

def route : String := Kind.keyOf .ingress service

def gateway (config : Configuration) : Gateway :=
  ⟨config.subdomains.identity, [⟨"/", service, PortKey.keycloakHttp⟩]⟩

theorem serves (made : generate model config = .ok descriptor) :
    descriptor.Serves model config [(route, gateway config)] := by
  obtain ⟨httpPort, managementPort, databasePort, env, image, check, database, replicas, found, _,
    _, _, _, _, _, _, listed⟩ := generate_ok made
  have lists := (Descriptor.ofResources_eq_ok.mp listed).2.2
  have leads : List.Forall₂ (Target.Leads model) (gateway config).targets
      ([PathRule.ofPrefix "/" service httpPort].map PathRule.toPath) :=
    .cons ⟨httpPort, found, rfl⟩ .nil
  refine Tabulated.catalogued ?_ lists
  exact .skip rfl (.skip rfl (.entry Owner.key_routed rfl ⟨⟨_, rfl, leads⟩, rfl⟩ .nil))

end IdentityProvider

theorem CatalogApi.serves (made : generate model config = .ok descriptor) :
    descriptor.Serves model config [] := by
  obtain ⟨port, waitImage, steps, image, env, replicas, _, _, _, _, _, _, listed⟩ :=
    generate_ok made
  have lists := (Descriptor.ofResources_eq_ok.mp listed).2.2
  refine Tabulated.catalogued ?_ lists
  exact .skip rfl (.skip rfl .nil)

namespace IngressRouter

def route : String := Kind.keyOf .ingress routeName

def bucketPath (model : Model) : String := "/" ++ model.storage.publicBucket

/-- The API first, then the public bucket. -/
def gateway (model : Model) : Gateway :=
  ⟨"", [⟨CatalogApi.pathPrefix, CatalogApi.service, PortKey.catalogApi⟩,
    ⟨bucketPath model, ObjectStore.service, PortKey.minioApi⟩]⟩

theorem rules_lead {routes : List PathRule} (made : rules model = .ok routes) :
    List.Forall₂ (Target.Leads model) (gateway model).targets (routes.map PathRule.toPath) := by
  simp only [rules, Outcome.bind_eq_ok, Except.ok.injEq] at made
  obtain ⟨apiPort, apiFound, storagePort, storageFound, rfl⟩ := made
  exact .cons ⟨apiPort, apiFound, rfl⟩ (.cons ⟨storagePort, storageFound, rfl⟩ .nil)

theorem serves (made : generate model config = .ok descriptor) :
    descriptor.Serves model config [(route, gateway model)] := by
  obtain ⟨routes, found, listed⟩ := generate_ok made
  have lists := (Descriptor.ofResources_eq_ok.mp listed).2.2
  refine Tabulated.catalogued ?_ lists
  exact .entry Owner.key_routed rfl ⟨⟨_, rfl, rules_lead found⟩, rfl⟩
    (tabulated_certificates rfl)

end IngressRouter

theorem InitJob.serves (made : generate model config = .ok descriptor) :
    descriptor.Serves model config [] := by
  obtain ⟨steps, image, env, _, _, _, listed⟩ := generate_ok made
  have lists := (Descriptor.ofResources_eq_ok.mp listed).2.2
  refine Tabulated.catalogued ?_ lists
  exact .skip rfl (.skip rfl (.skip rfl (.skip rfl .nil)))

/-! ### The platform -/

def gatewayRosters (model : Model) (config : Configuration) :
    List (Generator × List (String × Gateway)) :=
  [(Database.generator, []), (Cache.generator, []),
    (SearchIndex.generator, [(SearchIndex.route, SearchIndex.gateway config)]),
    (ObjectStore.generator, ObjectStore.gateways config),
    (IdentityProvider.generator, [(IdentityProvider.route, IdentityProvider.gateway config)]),
    (CatalogApi.generator, []),
    (IngressRouter.generator, [(IngressRouter.route, IngressRouter.gateway model)]),
    (InitJob.generator, [])]

def gateways (model : Model) (config : Configuration) : List (String × Gateway) :=
  (gatewayRosters model config).flatMap Prod.snd

theorem gatewayRosters_serve : ∀ roster ∈ gatewayRosters model config, ∀ descriptor,
    roster.1.generate model config = .ok descriptor →
      descriptor.Serves model config roster.2 := by
  simp only [gatewayRosters, List.forall_mem_cons]
  exact ⟨fun _ => Database.serves, fun _ => Cache.serves, fun _ => SearchIndex.serves,
    fun _ => ObjectStore.serves, fun _ => IdentityProvider.serves, fun _ => CatalogApi.serves,
    fun _ => IngressRouter.serves, fun _ => InitJob.serves, List.forall_mem_nil _⟩

section Composed

variable {set : ResourceSet}

theorem gateways_open (composed : compose model config Generator.all = .ok set) :
    Catalogued set.get? Resource.ingress? (Gateway.Opens model config)
      (gateways model config) :=
  catalogued_of_composed composed gatewayRosters_serve

theorem exists_gateway (composed : compose model config Generator.all = .ok set) {key : String}
    {manifest : Manifest Ingress} (found : set.get? key = some (.ingress manifest)) :
    ∃ gateway, (key, gateway) ∈ gateways model config ∧ gateway.Opens model config manifest :=
  (gateways_open composed).only found rfl

theorem exists_ingress (composed : compose model config Generator.all = .ok set) {key : String}
    {gateway : Gateway} (listed : (key, gateway) ∈ gateways model config) :
    ∃ manifest, set.get? key = some (.ingress manifest) ∧ gateway.Opens model config manifest := by
  obtain ⟨resource, manifest, found, seen, opens⟩ := (gateways_open composed).all listed
  obtain rfl := Resource.ingress?_eq_some.mp seen
  exact ⟨manifest, found, opens⟩

/-! ### The certificate -/

theorem exists_lists {generator : Generator} (listed : generator ∈ Generator.all)
    (made : generator.generate model config = .ok descriptor) :
    ∃ resources, descriptor.Lists resources := by
  have lists : ∀ {component : String} {resources : List Resource},
      Descriptor.ofResources component resources = .ok descriptor →
        ∃ resources, descriptor.Lists resources :=
    fun made => ⟨_, (Descriptor.ofResources_eq_ok.mp made).2.2⟩
  simp only [Generator.all, List.mem_cons, List.not_mem_nil, or_false] at listed
  rcases listed with rfl | rfl | rfl | rfl | rfl | rfl | rfl | rfl
  · obtain ⟨_, _, _, _, _, _, _, _, _, _, all⟩ := Database.generate_ok made
    exact lists all
  · obtain ⟨_, _, _, _, _, _, all⟩ := Cache.generate_ok made
    exact lists all
  · obtain ⟨_, _, _, _, _, _, _, _, all⟩ := SearchIndex.generate_ok made
    exact lists all
  · obtain ⟨_, _, _, _, _, _, _, _, _, _, all⟩ := ObjectStore.generate_ok made
    exact lists all
  · obtain ⟨_, _, _, _, _, _, _, _, _, _, _, _, _, _, _, _, all⟩ :=
      IdentityProvider.generate_ok made
    exact lists all
  · obtain ⟨_, _, _, _, _, _, _, _, _, _, _, _, all⟩ := CatalogApi.generate_ok made
    exact lists all
  · obtain ⟨_, _, all⟩ := IngressRouter.generate_ok made
    exact lists all
  · obtain ⟨_, _, _, _, _, _, all⟩ := InitJob.generate_ok made
    exact lists all

/-- A resource of the platform is found under its own key. -/
theorem key_eq_of_composed (composed : compose model config Generator.all = .ok set)
    {key : String} {resource : Resource} (found : set.get? key = some resource) :
    resource.key = key := by
  obtain ⟨generator, listed, descriptor, made, held, _⟩ := exists_maker composed found
  obtain ⟨resources, lists⟩ := exists_lists listed made
  exact ((lists key resource).mp held).2

theorem identity_mem_objects (composed : compose model config Generator.all = .ok set)
    {key : String} {resource : Resource} (found : set.get? key = some resource) :
    resource.identity ∈ platformObjects ++ IngressRouter.certificateObjects config := by
  obtain ⟨valid, modelValid, descriptors, generated, union⟩ := compose_eq_ok.mp composed
  obtain ⟨descriptor, member, held⟩ := union.get?_eq_some_iff.mp found
  have inside : key ∈ descriptor.resources.keys := Dict.mem_keys.mpr ⟨resource, held⟩
  have keys := Profile.mem_keys_of_generated (profiles_kept valid modelValid) generated key
  obtain ⟨object, listed, same⟩ := List.mem_map.mp (keys.mp ⟨descriptor, member, inside⟩)
  have own : resource.key = object.1.keyOf object.2 :=
    (key_eq_of_composed composed found).trans same.symm
  obtain ⟨kind, name⟩ := Kind.keyOf_inj.mp own
  have equal : resource.identity = object := Prod.ext kind name
  exact equal ▸ objects_perm.mem_iff.mp listed

theorem get?_certificate (composed : compose model config Generator.all = .ok set)
    (secure : config.scheme = .https) :
    set.get? (Kind.keyOf .certificate config.tlsSecretName) =
      some (IngressRouter.certificate config) := by
  have router : IngressRouter.generator ∈ Generator.all := by simp [Generator.all]
  obtain ⟨descriptor, made, held⟩ := exists_made composed router
  obtain ⟨routes, _, listed⟩ := IngressRouter.generate_ok made
  have lists := (Descriptor.ofResources_eq_ok.mp listed).2.2
  refine held ((lists _ _).mpr ⟨?_, rfl⟩)
  simp [IngressRouter.certificates, secure, Scheme.isTls]

/-- There is no certificate but that of the router. -/
theorem certificate_eq (composed : compose model config Generator.all = .ok set) {key : String}
    {manifest : Manifest Certificate} (found : set.get? key = some (.certificate manifest)) :
    config.scheme = .https ∧ .certificate manifest = IngressRouter.certificate config := by
  have noCertificate : ∀ object ∈ platformObjects, object.1 ≠ .certificate := by decide
  rcases List.mem_append.mp (identity_mem_objects composed found) with plain | listed
  · exact absurd rfl (noCertificate _ plain)
  · have own := key_eq_of_composed composed found
    cases scheme : config.scheme with
    | http => simp [IngressRouter.certificateObjects, scheme, Scheme.isTls] at listed
    | https =>
      simp only [IngressRouter.certificateObjects, scheme, Scheme.isTls, if_true,
        List.mem_singleton] at listed
      have named : Resource.key (.certificate manifest) =
          Kind.keyOf .certificate config.tlsSecretName :=
        congrArg (fun object : Kind × String => object.1.keyOf object.2) listed
      rw [← own, named, get?_certificate composed scheme] at found
      exact ⟨rfl, (Option.some.inj found).symm⟩

end Composed

end PlatformManifests
