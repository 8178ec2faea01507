import PlatformManifests.Component.Selection
import PlatformManifests.Proofs.Generation
import PlatformManifests.Proofs.Lookup
import PlatformManifests.Proofs.Route
import PlatformManifests.Proofs.Validation

/-!
Profiles: what a component looks up, in which order, and which objects it makes, told without
running its generator. With valid inputs every generator keeps to its profile.
-/
namespace PlatformManifests

variable {model : Model} {config : Configuration} {component : String}
  {objects : List (Kind × String)}

/-- The lookups are made in order, and if all find something, then a descriptor of the component
with the objects. -/
structure Makes (model : Model) (config : Configuration) (component : String)
    (objects : List (Kind × String)) (lookups : List Lookup) (outcome : Outcome Descriptor) :
    Prop where
  reads : Reads model config lookups outcome
  component_eq : ∀ descriptor, outcome = .ok descriptor → descriptor.component = component
  mem_keys : ∀ descriptor, outcome = .ok descriptor →
    ∀ key, key ∈ descriptor.resources.keys ↔ ∃ object ∈ objects, object.1.keyOf object.2 = key

theorem Makes.listed {resources : List Resource}
    (same : resources.map Resource.identity = objects) (distinct : objects.Nodup) :
    Makes model config component objects [] (Descriptor.ofResources component resources) := by
  refine ⟨.of_ok (Descriptor.exists_ofResources (same ▸ distinct)), ?_, ?_⟩
  · intro descriptor made
    exact (Descriptor.ofResources_eq_ok.mp made).1
  · intro descriptor made key
    rw [← same]
    exact (Descriptor.ofResources_eq_ok.mp made).2.2.mem_keys

theorem Reads.makes {α : Type} {first second : List Lookup} {step : Outcome α}
    {next : α → Outcome Descriptor} (before : Reads model config first step)
    (after : ∀ value, step = .ok value →
      Makes model config component objects second (next value)) :
    Makes model config component objects (first ++ second) (step >>= next) := by
  refine ⟨before.bind fun value given => (after value given).reads, ?_, ?_⟩
  · intro descriptor made
    obtain ⟨value, given, rest⟩ := Outcome.bind_eq_ok.mp made
    exact (after value given).component_eq descriptor rest
  · intro descriptor made
    obtain ⟨value, given, rest⟩ := Outcome.bind_eq_ok.mp made
    exact (after value given).mem_keys descriptor rest

theorem Reads.route {owner : Owner} {name : String} {annotations : Dict String}
    {rules : List PathRule} (valid : config.validate = .ok ()) (subdomain : String)
    (some : rules ≠ []) (sound : ∀ rule ∈ rules, rule.problem? = none) :
    Reads model config []
      (owner.route model config name annotations (config.host subdomain) rules) :=
  .of_ok ⟨_, Owner.route_eq_ok.mpr
    ⟨Route.check_eq_ok.mpr ⟨Configuration.host_ne_empty valid subdomain, some, sound⟩, rfl⟩⟩

/-- A rule for a port of a valid model has no problem. -/
theorem PathRule.sound {pattern service key : String} {port : UInt16}
    (modelValid : model.validate = .ok ()) (found : model.port key = .ok port)
    (slash : pattern.toList.head? = some '/') (named : service.isEmpty = false) :
    (PathRule.ofPrefix pattern service port).problem? = none :=
  problem?_eq_none.mpr ⟨slash, named, Model.port_ne_zero modelValid found⟩

theorem Reads.rootRoute {owner : Owner} {name service key : String} {annotations : Dict String}
    {port : UInt16} (valid : config.validate = .ok ()) (modelValid : model.validate = .ok ())
    (subdomain : String) (named : service.isEmpty = false) (found : model.port key = .ok port) :
    Reads model config [] (owner.route model config name annotations (config.host subdomain)
      [.ofPrefix "/" service port]) := by
  refine .route valid subdomain (List.cons_ne_nil _ _) (List.forall_mem_singleton.mpr ?_)
  exact PathRule.sound modelValid found (by decide) named

structure Profile where
  generator : Generator
  lookups : Configuration → List Lookup
  objects : Configuration → List (Kind × String)

/-- The generator does what the profile says. -/
def Profile.Kept (profile : Profile) (model : Model) (config : Configuration) : Prop :=
  Makes model config profile.generator.component (profile.objects config)
    (profile.lookups config) (profile.generator.generate model config)

/-! ### Components without routes -/

namespace Database

def inventory : List (Kind × String) :=
  [(.statefulSet, service), (.service, service), (.volumeClaim, claimName),
    (.configMap, scriptsName)]

def profile : Profile where
  generator := generator
  lookups _ :=
    [.port PortKey.postgres, .secret SecretId.postgresSuperuser,
      .secret SecretId.postgresIdentity, .secret SecretId.postgresApplication,
      .port PortKey.postgres, .image ImageKey.postgres, .volume VolumeKey.postgres]
  objects _ := inventory

theorem reads_environment :
    Reads model config [.secret SecretId.postgresSuperuser, .secret SecretId.postgresIdentity,
      .secret SecretId.postgresApplication] (environment model config) :=
  (Reads.secret _ _ _).bind fun _ _ => (Reads.secret _ _ _).bind fun _ _ =>
    (Reads.secret _ _ _).bind fun _ _ => .pure _

theorem reads_readiness (host : String) :
    Reads model config [.port PortKey.postgres] (readiness model host) :=
  (Reads.port _).bind fun _ _ => .pure _

theorem reads_waitStep :
    Reads model config [.port PortKey.postgres, .image ImageKey.postgres] (waitStep model) :=
  (reads_readiness _).bind fun _ _ => (Reads.image _).bind fun _ _ => .pure _

theorem kept : profile.Kept model config := by
  refine (Reads.port _).makes fun port _ => ?_
  refine reads_environment.makes fun env _ => ?_
  refine (reads_readiness _).makes fun check _ => ?_
  refine (Reads.image _).makes fun image _ => ?_
  refine (Reads.volume _).makes fun size _ => ?_
  exact .listed rfl (show inventory.Nodup by decide)

end Database

namespace Cache

def inventory : List (Kind × String) := [(.statefulSet, service), (.service, service)]

def profile : Profile where
  generator := generator
  lookups _ := [.port PortKey.redis, .image ImageKey.redis, .secret SecretId.redis]
  objects _ := inventory

theorem kept : profile.Kept model config := by
  refine (Reads.port _).makes fun port _ => ?_
  refine (Reads.image _).makes fun image _ => ?_
  refine (Reads.secret _ _ _).makes fun password _ => ?_
  exact .listed rfl (show inventory.Nodup by decide)

end Cache

/-! ### Components with routes -/

namespace SearchIndex

def inventory : List (Kind × String) :=
  [(.statefulSet, service), (.service, service), (.volumeClaim, claimName), (.ingress, service)]

def profile : Profile where
  generator := generator
  lookups _ :=
    [.port PortKey.elasticsearch, .secret SecretId.elastic, .image ImageKey.elasticsearch,
      .volume VolumeKey.elasticsearch]
  objects _ := inventory

theorem reads_environment (port : UInt16) :
    Reads model config [.secret SecretId.elastic] (environment config port) :=
  (Reads.secret _ _ _).bind fun _ _ => .pure _

theorem kept (valid : config.validate = .ok ()) (modelValid : model.validate = .ok ()) :
    profile.Kept model config := by
  refine (Reads.port _).makes fun port found => ?_
  refine (reads_environment port).makes fun env _ => ?_
  refine (Reads.image _).makes fun image _ => ?_
  refine (Reads.rootRoute valid modelValid _ (by decide) found).makes fun route routed => ?_
  refine (Reads.volume _).makes fun size _ => ?_
  obtain ⟨_, rfl⟩ := Owner.route_eq_ok.mp routed
  refine .listed ?_ (show inventory.Nodup by decide)
  simp only [List.map_cons, List.map_nil, Owner.identity_routed]
  rfl

end SearchIndex

namespace ObjectStore

def inventory : List (Kind × String) :=
  [(.statefulSet, service), (.service, service), (.volumeClaim, claimName),
    (.ingress, apiRoute), (.ingress, consoleRoute)]

def profile : Profile where
  generator := generator
  lookups _ :=
    [.port PortKey.minioApi, .port PortKey.minioConsole, .secret SecretId.minioRoot,
      .secret SecretId.minioRoot, .image ImageKey.minio, .volume VolumeKey.minio]
  objects _ := inventory

theorem reads_environment :
    Reads model config [.secret SecretId.minioRoot, .secret SecretId.minioRoot]
      (environment config) :=
  (Reads.secret _ _ _).bind fun _ _ => (Reads.secret _ _ _).bind fun _ _ => .pure _

theorem kept (valid : config.validate = .ok ()) (modelValid : model.validate = .ok ()) :
    profile.Kept model config := by
  refine (Reads.port _).makes fun apiPort apiFound => ?_
  refine (Reads.port _).makes fun consolePort consoleFound => ?_
  refine reads_environment.makes fun env _ => ?_
  refine (Reads.image _).makes fun image _ => ?_
  refine (Reads.rootRoute valid modelValid _ (by decide) apiFound).makes fun api apiRouted => ?_
  refine (Reads.rootRoute valid modelValid _ (by decide) consoleFound).makes
    fun console consoleRouted => ?_
  refine (Reads.volume _).makes fun size _ => ?_
  obtain ⟨_, rfl⟩ := Owner.route_eq_ok.mp apiRouted
  obtain ⟨_, rfl⟩ := Owner.route_eq_ok.mp consoleRouted
  refine .listed ?_ (show inventory.Nodup by decide)
  simp only [List.map_cons, List.map_nil, Owner.identity_routed]
  rfl

end ObjectStore

namespace IdentityProvider

def inventory : List (Kind × String) :=
  [(.deployment, service), (.service, service), (.ingress, service)]

def profile : Profile where
  generator := generator
  lookups _ :=
    [.port PortKey.keycloakHttp, .port PortKey.keycloakManagement, .port PortKey.postgres,
      .secret SecretId.postgresIdentity, .secret SecretId.keycloakAdmin,
      .secret SecretId.keycloakAdmin, .image ImageKey.keycloak,
      .port PortKey.keycloakManagement, .port PortKey.postgres, .image ImageKey.postgres,
      .replicas ImageKey.keycloak]
  objects _ := inventory

theorem reads_healthCheck :
    Reads model config [.port PortKey.keycloakManagement] (healthCheck model) :=
  (Reads.port _).bind fun _ _ => .pure _

theorem reads_internalUrl :
    Reads model config [.port PortKey.keycloakHttp] (internalUrl model) :=
  (Reads.port _).bind fun _ _ => .pure _

theorem reads_environment (httpPort managementPort databasePort : UInt16) :
    Reads model config [.secret SecretId.postgresIdentity, .secret SecretId.keycloakAdmin,
      .secret SecretId.keycloakAdmin]
      (environment model config httpPort managementPort databasePort) :=
  (Reads.secret _ _ _).bind fun _ _ => (Reads.secret _ _ _).bind fun _ _ =>
    (Reads.secret _ _ _).bind fun _ _ => .pure _

theorem kept (valid : config.validate = .ok ()) (modelValid : model.validate = .ok ()) :
    profile.Kept model config := by
  refine (Reads.port _).makes fun httpPort found => ?_
  refine (Reads.port _).makes fun managementPort _ => ?_
  refine (Reads.port _).makes fun databasePort _ => ?_
  refine (reads_environment httpPort managementPort databasePort).makes fun env _ => ?_
  refine (Reads.image _).makes fun image _ => ?_
  refine reads_healthCheck.makes fun check _ => ?_
  refine Database.reads_waitStep.makes fun database _ => ?_
  refine (Reads.rootRoute valid modelValid _ (by decide) found).makes fun route routed => ?_
  refine (Reads.replicas _).makes fun replicas _ => ?_
  obtain ⟨_, rfl⟩ := Owner.route_eq_ok.mp routed
  refine .listed ?_ (show inventory.Nodup by decide)
  simp only [List.map_cons, List.map_nil, Owner.identity_routed]
  rfl

end IdentityProvider

namespace IngressRouter

def certificateObjects (config : Configuration) : List (Kind × String) :=
  if config.scheme.isTls then [(.certificate, config.tlsSecretName)] else []

def inventory (config : Configuration) : List (Kind × String) :=
  (.ingress, routeName) :: certificateObjects config

def profile : Profile where
  generator := generator
  lookups _ := [.port PortKey.catalogApi, .port PortKey.minioApi]
  objects := inventory

theorem rules_sound (modelValid : model.validate = .ok ()) {routes : List PathRule}
    (found : rules model = .ok routes) :
    routes ≠ [] ∧ ∀ rule ∈ routes, rule.problem? = none := by
  simp only [rules, Outcome.bind_eq_ok, Except.ok.injEq] at found
  obtain ⟨apiPort, apiFound, storagePort, storageFound, rfl⟩ := found
  refine ⟨List.cons_ne_nil _ _, List.forall_mem_cons.mpr ⟨?_, List.forall_mem_singleton.mpr ?_⟩⟩
  · exact PathRule.sound modelValid apiFound (by decide) (by decide)
  · have slash : ("/" ++ model.storage.publicBucket).toList.head? = some '/' := by
      rw [String.toList_append]
      rfl
    exact PathRule.sound modelValid storageFound slash (by decide)

theorem reads_rules :
    Reads model config [.port PortKey.catalogApi, .port PortKey.minioApi] (rules model) :=
  (Reads.port _).bind fun _ _ => (Reads.port _).bind fun _ _ => .pure _

theorem map_identity_certificates :
    (certificates config).map Resource.identity = certificateObjects config := by
  unfold certificates certificateObjects
  split <;> rfl

theorem kept (valid : config.validate = .ok ()) (modelValid : model.validate = .ok ()) :
    profile.Kept model config := by
  refine reads_rules.makes fun routes found => ?_
  obtain ⟨some, sound⟩ := rules_sound modelValid found
  refine (Reads.route valid "" some sound).makes fun route routed => ?_
  obtain ⟨_, rfl⟩ := Owner.route_eq_ok.mp routed
  show Makes model config _ (inventory config) [] _
  refine .listed ?_ ?_
  · rw [List.map_cons, Owner.identity_routed, map_identity_certificates, inventory]
  · unfold inventory certificateObjects
    split <;> simp

end IngressRouter

/-! ### Components with an environment of addresses -/

namespace CatalogApi

def inventory : List (Kind × String) := [(.deployment, service), (.service, service)]

def environmentLookups : List Lookup :=
  [.port PortKey.postgres, .secret SecretId.postgresApplication, .port PortKey.redis,
    .secret SecretId.redis, .port PortKey.elasticsearch, .secret SecretId.elastic,
    .port PortKey.minioApi, .secret SecretId.minioRoot, .secret SecretId.minioRoot,
    .port PortKey.keycloakHttp, .client ClientKey.catalogApi,
    .secret SecretId.catalogApiClient, .broker BrokerKey.events]

def profile : Profile where
  generator := generator
  lookups _ :=
    [.port PortKey.catalogApi, .image ImageKey.wait, .port PortKey.elasticsearch,
      .port PortKey.keycloakManagement, .image ImageKey.catalogApi] ++ environmentLookups ++
      [.replicas ImageKey.catalogApi]
  objects _ := inventory

theorem reads_databaseEnvironment :
    Reads model config [.port PortKey.postgres, .secret SecretId.postgresApplication]
      (databaseEnvironment model config) :=
  (Reads.port _).bind fun _ _ => (Reads.secret _ _ _).bind fun _ _ => .pure _

theorem reads_cacheEnvironment :
    Reads model config [.port PortKey.redis, .secret SecretId.redis]
      (cacheEnvironment model config) :=
  (Reads.port _).bind fun _ _ => (Reads.secret _ _ _).bind fun _ _ => .pure _

theorem reads_searchEnvironment :
    Reads model config [.port PortKey.elasticsearch, .secret SecretId.elastic]
      (searchEnvironment model config) :=
  (Reads.port _).bind fun _ _ => (Reads.secret _ _ _).bind fun _ _ => .pure _

theorem reads_storageEnvironment :
    Reads model config
      [.port PortKey.minioApi, .secret SecretId.minioRoot, .secret SecretId.minioRoot]
      (storageEnvironment model config) :=
  (Reads.port _).bind fun _ _ => (Reads.secret _ _ _).bind fun _ _ =>
    (Reads.secret _ _ _).bind fun _ _ => .pure _

theorem reads_identityEnvironment :
    Reads model config [.port PortKey.keycloakHttp, .client ClientKey.catalogApi,
      .secret SecretId.catalogApiClient] (identityEnvironment model config) :=
  IdentityProvider.reads_internalUrl.bind fun _ _ => (Reads.client _).bind fun _ _ =>
    (Reads.secret _ _ _).bind fun _ _ => .pure _

theorem reads_environment :
    Reads model config environmentLookups (environment model config) := by
  refine reads_databaseEnvironment.bind fun database _ => ?_
  refine reads_cacheEnvironment.bind fun cache _ => ?_
  refine reads_searchEnvironment.bind fun search _ => ?_
  refine reads_storageEnvironment.bind fun storage _ => ?_
  refine reads_identityEnvironment.bind fun identity _ => ?_
  exact (Reads.broker _).bind fun events _ => .pure _

theorem reads_waitSteps (image : String) :
    Reads model config [.port PortKey.elasticsearch, .port PortKey.keycloakManagement]
      (waitSteps model image) :=
  (Reads.port _).bind fun _ _ => IdentityProvider.reads_healthCheck.bind fun _ _ => .pure _

theorem kept : profile.Kept model config := by
  refine (Reads.port _).makes fun port _ => ?_
  refine (Reads.image _).makes fun waitImage _ => ?_
  refine (reads_waitSteps _).makes fun steps _ => ?_
  refine (Reads.image _).makes fun image _ => ?_
  refine reads_environment.makes fun env _ => ?_
  refine (Reads.replicas _).makes fun replicas _ => ?_
  exact .listed rfl (show inventory.Nodup by decide)

end CatalogApi

namespace InitJob

def inventory : List (Kind × String) :=
  [(.serviceAccount, name), (.role, name), (.roleBinding, name), (.job, name)]

/-- The password of the mail server, where one is named. -/
def mailLookups (config : Configuration) : List Lookup :=
  ((config.mail.bind MailRelay.passwordSecret).map Lookup.secret).toList

def environmentLookups (config : Configuration) : List Lookup :=
  [.port PortKey.keycloakHttp, .secret SecretId.keycloakAdmin, .secret SecretId.keycloakAdmin,
    .client ClientKey.catalogApi, .secret SecretId.catalogApiClient, .client ClientKey.web] ++
    mailLookups config ++
    [.port PortKey.minioApi, .secret SecretId.minioRoot, .secret SecretId.minioRoot]

def profile : Profile where
  generator := generator
  lookups config :=
    [.port PortKey.postgres, .image ImageKey.postgres, .port PortKey.keycloakManagement,
      .image ImageKey.wait, .image ImageKey.platformInit] ++ environmentLookups config
  objects _ := inventory

theorem reads_identityEnvironment :
    Reads model config [.port PortKey.keycloakHttp, .secret SecretId.keycloakAdmin,
      .secret SecretId.keycloakAdmin, .client ClientKey.catalogApi,
      .secret SecretId.catalogApiClient, .client ClientKey.web]
      (identityEnvironment model config) := by
  refine IdentityProvider.reads_internalUrl.bind fun url _ => ?_
  refine (Reads.secret _ _ _).bind fun user _ => ?_
  refine (Reads.secret _ _ _).bind fun password _ => ?_
  refine (Reads.client _).bind fun apiClient _ => ?_
  refine (Reads.secret _ _ _).bind fun secret _ => ?_
  exact (Reads.client _).bind fun webClient _ => .pure _

theorem reads_mailEnvironment :
    Reads model config (mailLookups config) (mailEnvironment config) := by
  unfold mailLookups mailEnvironment
  cases config.mail with
  | none => exact .pure _
  | some mail =>
    cases named : mail.passwordSecret with
    | none =>
      simp only [Option.bind_some, named, Option.map_none, Option.toList_none]
      exact .pure _
    | some identifier =>
      simp only [Option.bind_some, named, Option.map_some, Option.toList_some]
      exact ((Reads.secret _ _ _).map _).bind fun password _ => .pure _

theorem reads_storageEnvironment :
    Reads model config
      [.port PortKey.minioApi, .secret SecretId.minioRoot, .secret SecretId.minioRoot]
      (storageEnvironment model config) :=
  (Reads.port _).bind fun _ _ => (Reads.secret _ _ _).bind fun _ _ =>
    (Reads.secret _ _ _).bind fun _ _ => .pure _

theorem reads_environment :
    Reads model config (environmentLookups config) (environment model config) := by
  rw [environmentLookups, List.append_assoc, ← List.append_nil [_, _, _]]
  refine reads_identityEnvironment.bind fun identity _ => ?_
  refine reads_mailEnvironment.bind fun mail _ => ?_
  exact reads_storageEnvironment.bind fun storage _ => .pure _

theorem reads_waitSteps :
    Reads model config [.port PortKey.postgres, .image ImageKey.postgres,
      .port PortKey.keycloakManagement, .image ImageKey.wait] (waitSteps model) :=
  Database.reads_waitStep.bind fun _ _ => IdentityProvider.reads_healthCheck.bind fun _ _ =>
    (Reads.image _).bind fun _ _ => .pure _

theorem kept : profile.Kept model config := by
  rw [Profile.Kept, ← List.append_nil (profile.lookups config)]
  refine reads_waitSteps.makes fun steps _ => ?_
  refine (Reads.image _).makes fun image _ => ?_
  refine reads_environment.makes fun env _ => ?_
  refine (Reads.of_ok ⟨_, checkedRole_accessRules _⟩).makes fun role checked => ?_
  obtain rfl := Except.ok.inj ((checkedRole_accessRules _).symm.trans checked)
  exact .listed rfl (show inventory.Nodup by decide)

end InitJob

end PlatformManifests
