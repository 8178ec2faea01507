import PlatformManifests.Proofs.Credentials

/-!
What a composition depends on. In the sections with keys, only the entries that the platform names
are ever looked up, and of the secrets only those of the platform and the password of the mail
relay. Whatever else is there makes no difference, neither to what is made nor to what fails.
-/
namespace PlatformManifests

open Outcome

variable {model other : Model} {config changed : Configuration}

/-! ### Inputs that agree -/

def ImageKey.all : List String :=
  [postgres, redis, elasticsearch, minio, keycloak, catalogApi, platformInit, wait]

def PortKey.all : List String :=
  [postgres, redis, elasticsearch, minioApi, minioConsole, keycloakHttp, keycloakManagement,
    catalogApi]

def VolumeKey.all : List String := [postgres, elasticsearch, minio]

def ClientKey.all : List String := [catalogApi, web]

/-- The keys of the workloads whose number of pods the model gives. -/
def ReplicaKey.all : List String := [ImageKey.keycloak, ImageKey.catalogApi]

/-- The first model with the entries of the second one in all sections with keys. -/
def Model.withEntriesOf (model other : Model) : Model :=
  { model with
    images := other.images
    ports := other.ports
    volumes := other.volumes
    replicas := other.replicas
    identity := { model.identity with clients := other.identity.clients }
    brokers := other.brokers }

/-- The models are the same but for entries under keys that the platform does not name. -/
structure Model.Agrees (model other : Model) : Prop where
  images : ∀ key ∈ ImageKey.all, model.images.get? key = other.images.get? key
  ports : ∀ key ∈ PortKey.all, model.ports.get? key = other.ports.get? key
  volumes : ∀ key ∈ VolumeKey.all, model.volumes.get? key = other.volumes.get? key
  replicas : ∀ key ∈ ReplicaKey.all, model.replicas.get? key = other.replicas.get? key
  clients : ∀ key ∈ ClientKey.all,
    model.identity.clients.get? key = other.identity.clients.get? key
  events : model.brokers.get? BrokerKey.events = other.brokers.get? BrokerKey.events
  realm : model.identity.realm = other.identity.realm
  database : model.database = other.database
  storage : model.storage = other.storage
  ingressClass : model.ingressClass = other.ingressClass

/-- The configurations are the same but for secrets that the platform does not ask for. -/
structure Configuration.Agrees (config changed : Configuration) : Prop where
  secrets : ∀ identifier ∈ SecretId.all,
    config.secrets.get? identifier = changed.secrets.get? identifier
  mailPassword : ∀ mail identifier, config.mail = some mail →
    mail.passwordSecret = some identifier →
    config.secrets.get? identifier = changed.secrets.get? identifier
  others : changed = { config with secrets := changed.secrets }

/-! ### Single lookups -/

namespace Model

theorem entry_congr {α : Type} {first second : Dict α} {path key : String}
    (same : first.get? key = second.get? key) : entry first path key = entry second path key := by
  unfold entry
  rw [same]

namespace Agrees

theorem eq_withEntriesOf (models : model.Agrees other) : other = model.withEntriesOf other := by
  obtain ⟨_, _, _, _, ⟨_, _⟩, _, _, _, _⟩ := other
  simp only [withEntriesOf, models.realm, models.database, models.storage, models.ingressClass]

theorem image (models : model.Agrees other) {key : String} (named : key ∈ ImageKey.all) :
    model.image key = other.image key :=
  entry_congr (models.images key named)

theorem port (models : model.Agrees other) {key : String} (named : key ∈ PortKey.all) :
    model.port key = other.port key :=
  entry_congr (models.ports key named)

theorem volumeSize (models : model.Agrees other) {key : String} (named : key ∈ VolumeKey.all) :
    model.volumeSize key = other.volumeSize key :=
  entry_congr (models.volumes key named)

theorem replicaCount (models : model.Agrees other) {key : String} (named : key ∈ ReplicaKey.all) :
    model.replicaCount key = other.replicaCount key :=
  entry_congr (models.replicas key named)

theorem clientId (models : model.Agrees other) {key : String} (named : key ∈ ClientKey.all) :
    model.clientId key = other.clientId key :=
  entry_congr (models.clients key named)

theorem broker (models : model.Agrees other) :
    model.broker BrokerKey.events = other.broker BrokerKey.events :=
  entry_congr models.events

theorem waitImage (models : model.Agrees other) : model.waitImage = other.waitImage :=
  models.image (by decide)

end Agrees

end Model

namespace Configuration

theorem secretEnv_congr {name identifier : String} {field : SecretField}
    (same : config.secrets.get? identifier = changed.secrets.get? identifier) :
    config.secretEnv name identifier field = changed.secretEnv name identifier field := by
  unfold secretEnv secretVariable secretSource secretName
  rw [same]

namespace Agrees

theorem secretEnv (configs : config.Agrees changed) {identifier : String}
    (named : identifier ∈ SecretId.all) (name : String) (field : SecretField) :
    config.secretEnv name identifier field = changed.secretEnv name identifier field :=
  secretEnv_congr (configs.secrets identifier named)

theorem host_eq (configs : config.Agrees changed) (choose : Subdomains → String) :
    config.host (choose config.subdomains) = changed.host (choose changed.subdomains) := by
  rw [configs.others]
  rfl

end Agrees

end Configuration

theorem Owner.route_congr {owner : Owner} {name host otherHost : String}
    {annotations : Dict String} {rules : List PathRule} (models : model.Agrees other)
    (configs : config.Agrees changed) (same : host = otherHost) :
    owner.route model config name annotations host rules =
      owner.route other changed name annotations otherHost rules := by
  rw [same, models.eq_withEntriesOf, configs.others]
  rfl

/-! ### Components -/

namespace Database

theorem environment_congr (models : model.Agrees other) (configs : config.Agrees changed) :
    environment model config = environment other changed := by
  refine bind_of_eq (configs.secretEnv (by decide) _ _) fun password => ?_
  refine bind_of_eq (configs.secretEnv (by decide) _ _) fun identity => ?_
  refine bind_of_eq (configs.secretEnv (by decide) _ _) fun application => ?_
  rw [models.database]

theorem readiness_congr (models : model.Agrees other) (host : String) :
    readiness model host = readiness other host := by
  refine bind_of_eq (models.port (by decide)) fun port => ?_
  rw [models.database]

theorem waitStep_congr (models : model.Agrees other) : waitStep model = waitStep other := by
  refine bind_of_eq (readiness_congr models service) fun check => ?_
  exact bind_of_eq (models.image (by decide)) fun image => rfl

theorem generate_congr (models : model.Agrees other) (configs : config.Agrees changed) :
    generate model config = generate other changed := by
  refine bind_of_eq (models.port (by decide)) fun port => ?_
  refine bind_of_eq (environment_congr models configs) fun env => ?_
  refine bind_of_eq (readiness_congr models _) fun check => ?_
  refine bind_of_eq (models.image (by decide)) fun image => ?_
  refine bind_of_eq (models.volumeSize (by decide)) fun size => ?_
  rw [configs.others]
  rfl

end Database

theorem Cache.generate_congr (models : model.Agrees other) (configs : config.Agrees changed) :
    generate model config = generate other changed := by
  refine bind_of_eq (models.port (by decide)) fun port => ?_
  refine bind_of_eq (models.image (by decide)) fun image => ?_
  refine bind_of_eq (configs.secretEnv (by decide) _ _) fun password => ?_
  rw [configs.others]
  rfl

theorem SearchIndex.generate_congr (models : model.Agrees other)
    (configs : config.Agrees changed) : generate model config = generate other changed := by
  refine bind_of_eq (models.port (by decide)) fun port => ?_
  have envs : environment config port = environment changed port :=
    bind_of_eq (configs.secretEnv (by decide) _ _) fun password => rfl
  refine bind_of_eq envs fun env => ?_
  refine bind_of_eq (models.image (by decide)) fun image => ?_
  have routes := configs.host_eq Subdomains.search
  refine bind_of_eq (Owner.route_congr models configs routes) fun route => ?_
  refine bind_of_eq (models.volumeSize (by decide)) fun size => ?_
  rw [configs.others]
  rfl

namespace ObjectStore

theorem environment_congr (configs : config.Agrees changed) :
    environment config = environment changed := by
  refine bind_of_eq (configs.secretEnv (by decide) _ _) fun user => ?_
  refine bind_of_eq (configs.secretEnv (by decide) _ _) fun password => ?_
  rw [configs.others]
  rfl

theorem generate_congr (models : model.Agrees other) (configs : config.Agrees changed) :
    generate model config = generate other changed := by
  refine bind_of_eq (models.port (by decide)) fun apiPort => ?_
  refine bind_of_eq (models.port (by decide)) fun consolePort => ?_
  refine bind_of_eq (environment_congr configs) fun env => ?_
  refine bind_of_eq (models.image (by decide)) fun image => ?_
  have apis := configs.host_eq Subdomains.storage
  refine bind_of_eq (Owner.route_congr models configs apis) fun api => ?_
  have consoles := configs.host_eq Subdomains.storageConsole
  refine bind_of_eq (Owner.route_congr models configs consoles) fun console => ?_
  refine bind_of_eq (models.volumeSize (by decide)) fun size => ?_
  rw [configs.others]
  rfl

end ObjectStore

namespace IdentityProvider

theorem healthCheck_congr (models : model.Agrees other) :
    healthCheck model = healthCheck other :=
  bind_of_eq (models.port (by decide)) fun port => rfl

theorem internalUrl_congr (models : model.Agrees other) :
    internalUrl model = internalUrl other :=
  bind_of_eq (models.port (by decide)) fun port => rfl

theorem environment_congr (models : model.Agrees other) (configs : config.Agrees changed)
    (httpPort managementPort databasePort : UInt16) :
    environment model config httpPort managementPort databasePort =
      environment other changed httpPort managementPort databasePort := by
  refine bind_of_eq (configs.secretEnv (by decide) _ _) fun password => ?_
  refine bind_of_eq (configs.secretEnv (by decide) _ _) fun adminName => ?_
  refine bind_of_eq (configs.secretEnv (by decide) _ _) fun adminPassword => ?_
  rw [models.database, configs.others]
  rfl

theorem generate_congr (models : model.Agrees other) (configs : config.Agrees changed) :
    generate model config = generate other changed := by
  refine bind_of_eq (models.port (by decide)) fun httpPort => ?_
  refine bind_of_eq (models.port (by decide)) fun managementPort => ?_
  refine bind_of_eq (models.port (by decide)) fun databasePort => ?_
  refine bind_of_eq (environment_congr models configs _ _ _) fun env => ?_
  refine bind_of_eq (models.image (by decide)) fun image => ?_
  refine bind_of_eq (healthCheck_congr models) fun check => ?_
  refine bind_of_eq (Database.waitStep_congr models) fun database => ?_
  have routes := configs.host_eq Subdomains.identity
  refine bind_of_eq (Owner.route_congr models configs routes) fun route => ?_
  refine bind_of_eq (models.replicaCount (by decide)) fun replicas => ?_
  rw [configs.others]
  rfl

end IdentityProvider

namespace CatalogApi

theorem databaseEnvironment_congr (models : model.Agrees other)
    (configs : config.Agrees changed) :
    databaseEnvironment model config = databaseEnvironment other changed := by
  refine bind_of_eq (models.port (by decide)) fun port => ?_
  refine bind_of_eq (configs.secretEnv (by decide) _ _) fun password => ?_
  rw [models.database]

theorem cacheEnvironment_congr (models : model.Agrees other) (configs : config.Agrees changed) :
    cacheEnvironment model config = cacheEnvironment other changed := by
  refine bind_of_eq (models.port (by decide)) fun port => ?_
  exact bind_of_eq (configs.secretEnv (by decide) _ _) fun password => rfl

theorem searchEnvironment_congr (models : model.Agrees other) (configs : config.Agrees changed) :
    searchEnvironment model config = searchEnvironment other changed := by
  refine bind_of_eq (models.port (by decide)) fun port => ?_
  exact bind_of_eq (configs.secretEnv (by decide) _ _) fun password => rfl

theorem storageEnvironment_congr (models : model.Agrees other)
    (configs : config.Agrees changed) :
    storageEnvironment model config = storageEnvironment other changed := by
  refine bind_of_eq (models.port (by decide)) fun port => ?_
  refine bind_of_eq (configs.secretEnv (by decide) _ _) fun user => ?_
  refine bind_of_eq (configs.secretEnv (by decide) _ _) fun password => ?_
  rw [models.storage, configs.others]
  rfl

theorem identityEnvironment_congr (models : model.Agrees other)
    (configs : config.Agrees changed) :
    identityEnvironment model config = identityEnvironment other changed := by
  refine bind_of_eq (IdentityProvider.internalUrl_congr models) fun url => ?_
  refine bind_of_eq (models.clientId (by decide)) fun client => ?_
  refine bind_of_eq (configs.secretEnv (by decide) _ _) fun secret => ?_
  rw [models.realm, configs.others]
  rfl

theorem environment_congr (models : model.Agrees other) (configs : config.Agrees changed) :
    environment model config = environment other changed := by
  refine bind_of_eq (databaseEnvironment_congr models configs) fun database => ?_
  refine bind_of_eq (cacheEnvironment_congr models configs) fun cache => ?_
  refine bind_of_eq (searchEnvironment_congr models configs) fun search => ?_
  refine bind_of_eq (storageEnvironment_congr models configs) fun storage => ?_
  refine bind_of_eq (identityEnvironment_congr models configs) fun identity => ?_
  refine bind_of_eq models.broker fun events => ?_
  rw [configs.others]
  rfl

theorem waitSteps_congr (models : model.Agrees other) (image : String) :
    waitSteps model image = waitSteps other image := by
  refine bind_of_eq (models.port (by decide)) fun port => ?_
  exact bind_of_eq (IdentityProvider.healthCheck_congr models) fun check => rfl

theorem generate_congr (models : model.Agrees other) (configs : config.Agrees changed) :
    generate model config = generate other changed := by
  refine bind_of_eq (models.port (by decide)) fun port => ?_
  refine bind_of_eq models.waitImage fun waitImage => ?_
  refine bind_of_eq (waitSteps_congr models _) fun steps => ?_
  refine bind_of_eq (models.image (by decide)) fun image => ?_
  refine bind_of_eq (environment_congr models configs) fun env => ?_
  refine bind_of_eq (models.replicaCount (by decide)) fun replicas => ?_
  rw [configs.others]
  rfl

end CatalogApi

theorem IngressRouter.generate_congr (models : model.Agrees other)
    (configs : config.Agrees changed) : generate model config = generate other changed := by
  have rules : rules model = rules other := by
    refine bind_of_eq (models.port (by decide)) fun apiPort => ?_
    refine bind_of_eq (models.port (by decide)) fun storagePort => ?_
    rw [models.storage]
  refine bind_of_eq rules fun rules => ?_
  have routes := configs.host_eq fun _ => ""
  refine bind_of_eq (Owner.route_congr models configs routes) fun route => ?_
  rw [configs.others]
  rfl

namespace InitJob

theorem identityEnvironment_congr (models : model.Agrees other)
    (configs : config.Agrees changed) :
    identityEnvironment model config = identityEnvironment other changed := by
  refine bind_of_eq (IdentityProvider.internalUrl_congr models) fun url => ?_
  refine bind_of_eq (configs.secretEnv (by decide) _ _) fun user => ?_
  refine bind_of_eq (configs.secretEnv (by decide) _ _) fun password => ?_
  refine bind_of_eq (models.clientId (by decide)) fun apiClient => ?_
  refine bind_of_eq (configs.secretEnv (by decide) _ _) fun secret => ?_
  refine bind_of_eq (models.clientId (by decide)) fun webClient => ?_
  rw [models.realm, configs.others]
  rfl

/-- The one secret that the configuration itself names. -/
theorem mailEnvironment_congr (configs : config.Agrees changed) :
    mailEnvironment config = mailEnvironment changed := by
  have relay : changed.mail = config.mail := by rw [configs.others]
  unfold mailEnvironment
  rw [relay]
  cases given : config.mail with
  | none => rfl
  | some mail =>
    cases named : mail.passwordSecret with
    | none =>
      simp only [named]
    | some identifier =>
      have password : config.secretEnv "SMTP_PASSWORD" identifier .password =
          changed.secretEnv "SMTP_PASSWORD" identifier .password :=
        Configuration.secretEnv_congr (configs.mailPassword mail identifier given named)
      simp only [named, password]

theorem storageEnvironment_congr (models : model.Agrees other)
    (configs : config.Agrees changed) :
    storageEnvironment model config = storageEnvironment other changed := by
  refine bind_of_eq (models.port (by decide)) fun port => ?_
  refine bind_of_eq (configs.secretEnv (by decide) _ _) fun user => ?_
  refine bind_of_eq (configs.secretEnv (by decide) _ _) fun password => ?_
  rw [models.storage]

theorem environment_congr (models : model.Agrees other) (configs : config.Agrees changed) :
    environment model config = environment other changed := by
  refine bind_of_eq (identityEnvironment_congr models configs) fun identity => ?_
  refine bind_of_eq (mailEnvironment_congr configs) fun mail => ?_
  refine bind_of_eq (storageEnvironment_congr models configs) fun storage => ?_
  rw [configs.others]

theorem waitSteps_congr (models : model.Agrees other) : waitSteps model = waitSteps other := by
  refine bind_of_eq (Database.waitStep_congr models) fun database => ?_
  refine bind_of_eq (IdentityProvider.healthCheck_congr models) fun check => ?_
  exact bind_of_eq models.waitImage fun image => rfl

theorem generate_congr (models : model.Agrees other) (configs : config.Agrees changed) :
    generate model config = generate other changed := by
  refine bind_of_eq (waitSteps_congr models) fun steps => ?_
  refine bind_of_eq (models.image (by decide)) fun image => ?_
  refine bind_of_eq (environment_congr models configs) fun env => ?_
  rw [configs.others]
  rfl

end InitJob

/-! ### Composition -/

theorem all_generate_congr (models : model.Agrees other) (configs : config.Agrees changed) :
    ∀ generator ∈ Generator.all, generator.generate model config =
      generator.generate other changed := by
  simp only [Generator.all, List.forall_mem_cons]
  exact ⟨Database.generate_congr models configs, Cache.generate_congr models configs,
    SearchIndex.generate_congr models configs, ObjectStore.generate_congr models configs,
    IdentityProvider.generate_congr models configs, CatalogApi.generate_congr models configs,
    IngressRouter.generate_congr models configs, InitJob.generate_congr models configs,
    List.forall_mem_nil _⟩

theorem foldlM_addComponent_congr {generators : List Generator}
    (same : ∀ generator ∈ generators, generator.generate model config =
      generator.generate other changed) (set : ResourceSet) :
    generators.foldlM (addComponent model config) set =
      generators.foldlM (addComponent other changed) set := by
  induction generators generalizing set with
  | nil => rfl
  | cons generator rest ih =>
    obtain ⟨here, later⟩ := List.forall_mem_cons.mp same
    have step : addComponent model config set generator =
        addComponent other changed set generator := by
      rw [addComponent, Generator.run, here, addComponent, Generator.run]
    rw [List.foldlM_cons, List.foldlM_cons]
    exact bind_of_eq step fun next => ih later next

/-- Valid inputs that agree where the platform looks give the same outcome, a set or an error, for
any components chosen by name. -/
theorem compose_selected_eq_of_agrees (names : List String)
    (builtIn : ∀ name ∈ names, name ∈ Generator.names) (modelValid : model.validate = .ok ())
    (otherValid : other.validate = .ok ()) (valid : config.validate = .ok ())
    (changedValid : changed.validate = .ok ()) (models : model.Agrees other)
    (configs : config.Agrees changed) :
    ∃ generators, Generator.select names = .ok generators ∧
      compose model config generators = compose other changed generators := by
  refine ⟨_, select_eq_ok builtIn, ?_⟩
  unfold compose
  rw [valid, changedValid, modelValid, otherValid]
  refine foldlM_addComponent_congr (fun generator member => ?_) ∅
  exact all_generate_congr models configs generator (List.mem_filter.mp member).1

/-- The standard model and the demonstration with entries that no component asks for. -/
theorem compose_demonstration_eq_extended :
    compose Model.standard Configuration.demonstration Generator.all =
      compose ((Model.standard.withImage "shell" "busybox").withPort "metrics" 9100)
        { Configuration.demonstration with
          secrets := Configuration.demonstration.secrets.insert "backup" "backup-login" }
        Generator.all := by
  let other := (Model.standard.withImage "shell" "busybox").withPort "metrics" 9100
  let changed : Configuration := { Configuration.demonstration with
    secrets := Configuration.demonstration.secrets.insert "backup" "backup-login" }
  have models : Model.standard.Agrees other := by
    refine ⟨?images, ?ports, fun _ _ => rfl, fun _ _ => rfl, fun _ _ => rfl, rfl, rfl, rfl, rfl,
      rfl⟩
    case images => decide +kernel
    case ports => decide +kernel
  have configs : Configuration.demonstration.Agrees changed := by
    refine ⟨?secrets, nofun, rfl⟩
    case secrets => decide +kernel
  obtain ⟨generators, chosen, same⟩ := compose_selected_eq_of_agrees Generator.names
    (fun _ named => named) (by decide +kernel) (by decide +kernel)
    Configuration.demonstration_valid (by decide +kernel) models configs
  have every : Generator.select Generator.names = .ok Generator.all :=
    select_eq_ok fun _ named => named
  rw [every] at chosen
  obtain rfl := Except.ok.inj chosen
  exact same

end PlatformManifests
