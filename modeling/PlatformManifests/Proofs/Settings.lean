import Mathlib.Data.List.Forall2
import PlatformManifests.Proofs.Generation
import PlatformManifests.Proofs.Network

/-!
Settings: what the variables of a workload are set to, told by where the values come from. The main
container of a workload has the variables of its settings and no others, and there are no workloads
but those that are listed with their settings (`workloads`).
-/
namespace PlatformManifests

variable {model : Model} {config : Configuration} {descriptor : Descriptor}

/-- Where the value of a variable comes from. -/
inductive Setting where
  | text (value : String)
  /-- The port of the model under a key, with text before and after it. -/
  | port (before key after : String)
  | client (key : String)
  | broker (key : String)
  /-- The external address of a subdomain, with a path after it. -/
  | external (subdomain path : String)
  | secret (identifier : String) (field : SecretField)
deriving DecidableEq

def Setting.resolve (model : Model) (config : Configuration) (name : String) :
    Setting → Outcome EnvVar
  | text value => .ok (.literal name value)
  | port before key after => do
    let port ← model.port key
    .ok (.literal name (before ++ toString port ++ after))
  | client key => do
    let client ← model.clientId key
    .ok (.literal name client)
  | broker key => do
    let broker ← model.broker key
    .ok (.literal name broker)
  | external subdomain path => .ok (.literal name (config.externalUrl subdomain ++ path))
  | secret identifier field => config.secretEnv name identifier field

/-- The names of variables with their settings, in the order of the variables. -/
abbrev Settings := List (String × Setting)

def Realized (model : Model) (config : Configuration) (settings : Settings)
    (env : List EnvVar) : Prop :=
  List.Forall₂ (fun entry held => entry.2.resolve model config entry.1 = .ok held) settings env

namespace Setting

variable {name : String} {env : EnvVar}

def isSecret : Setting → Bool
  | secret _ _ => true
  | _ => false

@[simp] theorem resolve_text (value : String) :
    (text value).resolve model config name = .ok (.literal name value) := rfl

@[simp] theorem resolve_external (subdomain path : String) :
    (external subdomain path).resolve model config name =
      .ok (.literal name (config.externalUrl subdomain ++ path)) := rfl

@[simp] theorem resolve_secret (identifier : String) (field : SecretField) :
    (secret identifier field).resolve model config name = config.secretEnv name identifier field :=
  rfl

theorem resolve_port_eq_ok {before key after : String} :
    (port before key after).resolve model config name = .ok env ↔
      ∃ port, model.port key = .ok port ∧
        .literal name (before ++ toString port ++ after) = env := by
  simp [resolve]

theorem resolve_client_eq_ok {key : String} :
    (client key).resolve model config name = .ok env ↔
      ∃ client, model.clientId key = .ok client ∧ .literal name client = env := by
  simp [resolve]

theorem resolve_broker_eq_ok {key : String} :
    (broker key).resolve model config name = .ok env ↔
      ∃ broker, model.broker key = .ok broker ∧ .literal name broker = env := by
  simp [resolve]

theorem resolve_port {before key after value : String} {port : UInt16}
    (found : model.port key = .ok port) (written : before ++ toString port ++ after = value) :
    (Setting.port before key after).resolve model config name = .ok (.literal name value) :=
  resolve_port_eq_ok.mpr ⟨port, found, written ▸ rfl⟩

theorem resolve_number {key : String} {port : UInt16} (found : model.port key = .ok port) :
    (Setting.port "" key "").resolve model config name = .ok (.literal name (toString port)) :=
  resolve_port found (by rw [String.empty_append, String.append_empty])

theorem name_eq {setting : Setting} (resolved : setting.resolve model config name = .ok env) :
    env.name = name := by
  cases setting with
  | text value =>
    cases resolved
    rfl
  | port before key after =>
    obtain ⟨port, _, rfl⟩ := resolve_port_eq_ok.mp resolved
    rfl
  | client key =>
    obtain ⟨client, _, rfl⟩ := resolve_client_eq_ok.mp resolved
    rfl
  | broker key =>
    obtain ⟨broker, _, rfl⟩ := resolve_broker_eq_ok.mp resolved
    rfl
  | external subdomain path =>
    cases resolved
    rfl
  | secret identifier field => exact Configuration.secretEnv_name resolved

end Setting

theorem Realized.append {settings further : Settings} {env more : List EnvVar}
    (first : Realized model config settings env) (second : Realized model config further more) :
    Realized model config (settings ++ further) (env ++ more) :=
  List.rel_append first second

theorem Realized.unique {other : Model} {settings : Settings} {env more : List EnvVar}
    (first : Realized model config settings env) (second : Realized other config settings more)
    (same : ∀ entry ∈ settings,
      entry.2.resolve model config entry.1 = entry.2.resolve other config entry.1) :
    env = more := by
  induction first generalizing more with
  | nil =>
    cases second
    rfl
  | cons resolved _ ih =>
    cases second with
    | cons otherResolved rest =>
      obtain ⟨head, tail⟩ := List.forall_mem_cons.mp same
      rw [resolved, otherResolved] at head
      rw [Except.ok.inj head, ih rest tail]

/-! ### Components -/

namespace Database

def settings (model : Model) : Settings :=
  [("POSTGRES_USER", .text model.database.superuser.user),
    ("POSTGRES_DB", .text model.database.superuser.database),
    ("POSTGRES_PASSWORD", .secret SecretId.postgresSuperuser .password),
    ("PGDATA", .text (dataDirectory ++ "/pgdata")),
    ("IDENTITY_DB_USER", .text model.database.identityProvider.user),
    ("IDENTITY_DB_NAME", .text model.database.identityProvider.database),
    ("IDENTITY_DB_PASSWORD", .secret SecretId.postgresIdentity .password),
    ("APP_DB_USER", .text model.database.application.user),
    ("APP_DB_NAME", .text model.database.application.database),
    ("APP_DB_PASSWORD", .secret SecretId.postgresApplication .password)]

theorem realized_environment {env : List EnvVar} (made : environment model config = .ok env) :
    Realized model config (settings model) env := by
  simp only [environment, Outcome.bind_eq_ok, Except.ok.injEq] at made
  obtain ⟨password, passwords, identity, identities, application, applications, rfl⟩ := made
  simp [Realized, settings, passwords, identities, applications]

end Database

namespace Cache

def settings : Settings := [("REDIS_PASSWORD", .secret SecretId.redis .password)]

end Cache

namespace SearchIndex

def settings : Settings :=
  [("discovery.type", .text "single-node"),
    ("http.port", .port "" PortKey.elasticsearch ""),
    ("xpack.security.enabled", .text "true"),
    ("xpack.security.http.ssl.enabled", .text "false"),
    ("ES_JAVA_OPTS", .text "-Xms1g -Xmx1g"),
    ("ELASTIC_PASSWORD", .secret SecretId.elastic .password)]

theorem realized_environment {port : UInt16} {env : List EnvVar}
    (found : model.port PortKey.elasticsearch = .ok port)
    (made : environment config port = .ok env) : Realized model config settings env := by
  simp only [environment, Outcome.bind_eq_ok, Except.ok.injEq] at made
  obtain ⟨password, passwords, rfl⟩ := made
  simp [Realized, settings, Setting.resolve_number found, passwords]

end SearchIndex

namespace ObjectStore

def settings (config : Configuration) : Settings :=
  [("MINIO_ROOT_USER", .secret SecretId.minioRoot .username),
    ("MINIO_ROOT_PASSWORD", .secret SecretId.minioRoot .password),
    ("MINIO_SERVER_URL", .external config.subdomains.storage ""),
    ("MINIO_BROWSER_REDIRECT_URL", .external config.subdomains.storageConsole "")]

theorem realized_environment {env : List EnvVar} (made : environment config = .ok env) :
    Realized model config (settings config) env := by
  simp only [environment, Outcome.bind_eq_ok, Except.ok.injEq] at made
  obtain ⟨user, users, password, passwords, rfl⟩ := made
  simp [Realized, settings, users, passwords]

end ObjectStore

namespace IdentityProvider

def settings (model : Model) (config : Configuration) : Settings :=
  [("KC_HOSTNAME", .external config.subdomains.identity ""),
    ("KC_HTTP_ENABLED", .text "true"),
    ("KC_HTTP_PORT", .port "" PortKey.keycloakHttp ""),
    ("KC_HTTP_MANAGEMENT_PORT", .port "" PortKey.keycloakManagement ""),
    ("KC_PROXY_HEADERS", .text "xforwarded"),
    ("KC_HEALTH_ENABLED", .text "true"),
    ("KC_DB", .text "postgres"),
    ("KC_DB_URL", .port ("jdbc:postgresql://" ++ Database.service ++ ":") PortKey.postgres
      ("/" ++ model.database.identityProvider.database)),
    ("KC_DB_USERNAME", .text model.database.identityProvider.user),
    ("KC_DB_PASSWORD", .secret SecretId.postgresIdentity .password),
    ("KC_BOOTSTRAP_ADMIN_USERNAME", .secret SecretId.keycloakAdmin .username),
    ("KC_BOOTSTRAP_ADMIN_PASSWORD", .secret SecretId.keycloakAdmin .password)]

theorem realized_environment {httpPort managementPort databasePort : UInt16} {env : List EnvVar}
    (http : model.port PortKey.keycloakHttp = .ok httpPort)
    (management : model.port PortKey.keycloakManagement = .ok managementPort)
    (database : model.port PortKey.postgres = .ok databasePort)
    (made : environment model config httpPort managementPort databasePort = .ok env) :
    Realized model config (settings model config) env := by
  simp only [environment, Outcome.bind_eq_ok, Except.ok.injEq] at made
  obtain ⟨password, passwords, adminName, adminNames, adminPassword, adminPasswords, rfl⟩ := made
  have url : ∀ name, (Setting.port ("jdbc:postgresql://" ++ Database.service ++ ":")
      PortKey.postgres ("/" ++ model.database.identityProvider.database)).resolve model config
      name = .ok (.literal name (databaseUrl databasePort model.database.identityProvider.database)) :=
    fun name => Setting.resolve_port database (String.append_assoc ..).symm
  simp [Realized, settings, Setting.resolve_number http, Setting.resolve_number management, url,
    passwords, adminNames, adminPasswords]

def internalSetting : Setting := .port ("http://" ++ service ++ ":") PortKey.keycloakHttp ""

theorem resolve_internalSetting {url : String} (made : internalUrl model = .ok url)
    (name : String) : internalSetting.resolve model config name = .ok (.literal name url) := by
  simp only [internalUrl, Outcome.bind_eq_ok, Except.ok.injEq] at made
  obtain ⟨port, found, rfl⟩ := made
  exact Setting.resolve_port found (String.append_empty ..)

end IdentityProvider

namespace CatalogApi

def databaseSettings (model : Model) : Settings :=
  [("DATABASE_HOST", .text Database.service),
    ("DATABASE_PORT", .port "" PortKey.postgres ""),
    ("DATABASE_NAME", .text model.database.application.database),
    ("DATABASE_USER", .text model.database.application.user),
    ("DATABASE_PASSWORD", .secret SecretId.postgresApplication .password)]

def cacheSettings : Settings :=
  [("REDIS_URL", .port ("redis://" ++ Cache.service ++ ":") PortKey.redis "/0"),
    ("REDIS_PASSWORD", .secret SecretId.redis .password)]

def searchSettings : Settings :=
  [("ELASTIC_URL", .port ("http://" ++ SearchIndex.service ++ ":") PortKey.elasticsearch ""),
    ("ELASTIC_USER", .text SearchIndex.user),
    ("ELASTIC_PASSWORD", .secret SecretId.elastic .password)]

def storageSettings (model : Model) (config : Configuration) : Settings :=
  [("MINIO_ENDPOINT", .port (ObjectStore.service ++ ":") PortKey.minioApi ""),
    ("MINIO_PUBLIC_URL", .external config.subdomains.storage ""),
    ("MINIO_ACCESS_KEY", .secret SecretId.minioRoot .username),
    ("MINIO_SECRET_KEY", .secret SecretId.minioRoot .password),
    ("MINIO_PUBLIC_BUCKET", .text model.storage.publicBucket)]

def identitySettings (model : Model) (config : Configuration) : Settings :=
  [("KEYCLOAK_URL", IdentityProvider.internalSetting),
    ("KEYCLOAK_REALM", .text model.identity.realm),
    ("OIDC_ISSUER", .external config.subdomains.identity ("/realms/" ++ model.identity.realm)),
    ("OIDC_CLIENT_ID", .client ClientKey.catalogApi),
    ("OIDC_CLIENT_SECRET", .secret SecretId.catalogApiClient .clientSecret)]

/-- The port comes last: it is added by the container itself. -/
def settings (model : Model) (config : Configuration) : Settings :=
  [("PUBLIC_URL", .external "" ""), ("API_ROOT_PATH", .text pathPrefix)]
    ++ databaseSettings model ++ cacheSettings ++ searchSettings ++ storageSettings model config
    ++ identitySettings model config ++ [("KAFKA_BOOTSTRAP_SERVERS", .broker BrokerKey.events)]
    ++ [("PORT", .port "" PortKey.catalogApi "")]

theorem realized_databaseEnvironment {env : List EnvVar}
    (made : databaseEnvironment model config = .ok env) :
    Realized model config (databaseSettings model) env := by
  simp only [databaseEnvironment, Outcome.bind_eq_ok, Except.ok.injEq] at made
  obtain ⟨port, ports, password, passwords, rfl⟩ := made
  simp [Realized, databaseSettings, Setting.resolve_number ports, passwords]

theorem realized_cacheEnvironment {env : List EnvVar}
    (made : cacheEnvironment model config = .ok env) :
    Realized model config cacheSettings env := by
  simp only [cacheEnvironment, Outcome.bind_eq_ok, Except.ok.injEq] at made
  obtain ⟨port, ports, password, passwords, rfl⟩ := made
  have url : ∀ name, (Setting.port ("redis://" ++ Cache.service ++ ":") PortKey.redis "/0").resolve
      model config name = .ok (.literal name _) := fun name => Setting.resolve_port ports rfl
  simp [Realized, cacheSettings, url, passwords]

theorem realized_searchEnvironment {env : List EnvVar}
    (made : searchEnvironment model config = .ok env) :
    Realized model config searchSettings env := by
  simp only [searchEnvironment, Outcome.bind_eq_ok, Except.ok.injEq] at made
  obtain ⟨port, ports, password, passwords, rfl⟩ := made
  have url : ∀ name, (Setting.port ("http://" ++ SearchIndex.service ++ ":")
      PortKey.elasticsearch "").resolve model config name = .ok (.literal name _) :=
    fun name => Setting.resolve_port ports (String.append_empty ..)
  simp [Realized, searchSettings, url, passwords]

theorem realized_storageEnvironment {env : List EnvVar}
    (made : storageEnvironment model config = .ok env) :
    Realized model config (storageSettings model config) env := by
  simp only [storageEnvironment, Outcome.bind_eq_ok, Except.ok.injEq] at made
  obtain ⟨port, ports, user, users, password, passwords, rfl⟩ := made
  have address : ∀ name, (Setting.port (ObjectStore.service ++ ":") PortKey.minioApi "").resolve
      model config name = .ok (.literal name _) :=
    fun name => Setting.resolve_port ports (String.append_empty ..)
  simp [Realized, storageSettings, address, users, passwords]

theorem realized_identityEnvironment {env : List EnvVar}
    (made : identityEnvironment model config = .ok env) :
    Realized model config (identitySettings model config) env := by
  simp only [identityEnvironment, Outcome.bind_eq_ok, Except.ok.injEq] at made
  obtain ⟨url, urls, client, clients, secret, secrets, rfl⟩ := made
  simp [Realized, identitySettings, IdentityProvider.resolve_internalSetting urls,
    Setting.resolve_client_eq_ok, clients, secrets, String.append_assoc]

theorem realized_environment {env : List EnvVar} {port : UInt16}
    (found : model.port PortKey.catalogApi = .ok port)
    (made : environment model config = .ok env) :
    Realized model config (settings model config)
      (env ++ [.literal "PORT" (toString port)]) := by
  simp only [environment, Outcome.bind_eq_ok, Except.ok.injEq] at made
  obtain ⟨database, databases, cache, caches, search, searches, storage, storages, identity,
    identities, events, brokers, rfl⟩ := made
  have site : Realized model config [("PUBLIC_URL", .external "" ""),
      ("API_ROOT_PATH", .text pathPrefix)] [.literal "PUBLIC_URL" (config.externalUrl ""),
      .literal "API_ROOT_PATH" pathPrefix] := by
    simp [Realized]
  have kafka : Realized model config [("KAFKA_BOOTSTRAP_SERVERS", .broker BrokerKey.events)]
      [.literal "KAFKA_BOOTSTRAP_SERVERS" events] := by
    simp [Realized, Setting.resolve_broker_eq_ok, brokers]
  have number : Realized model config [("PORT", .port "" PortKey.catalogApi "")]
      [.literal "PORT" (toString port)] := by
    simp [Realized, Setting.resolve_number found]
  exact ((((((site.append (realized_databaseEnvironment databases)).append
    (realized_cacheEnvironment caches)).append (realized_searchEnvironment searches)).append
    (realized_storageEnvironment storages)).append (realized_identityEnvironment identities)).append
    kafka).append number

end CatalogApi

namespace InitJob

def identitySettings (model : Model) : Settings :=
  [("KEYCLOAK_URL", IdentityProvider.internalSetting),
    ("KEYCLOAK_ADMIN_USER", .secret SecretId.keycloakAdmin .username),
    ("KEYCLOAK_ADMIN_PASSWORD", .secret SecretId.keycloakAdmin .password),
    ("REALM", .text model.identity.realm),
    ("API_CLIENT_ID", .client ClientKey.catalogApi),
    ("API_CLIENT_SECRET", .secret SecretId.catalogApiClient .clientSecret),
    ("WEB_CLIENT_ID", .client ClientKey.web),
    ("WEB_REDIRECT_URI", .external "" "/*"),
    ("WEB_ORIGIN", .external "" "")]

def adminSettings (admin : Contact) : Settings :=
  ("ADMIN_EMAIL", .text admin.email) ::
    (admin.name.map fun name => ("ADMIN_NAME", Setting.text name)).toList

def mailSettings (config : Configuration) : Settings :=
  match config.mail with
  | none => []
  | some mail =>
    [("SMTP_HOST", .text mail.host),
      ("SMTP_PORT", .text (toString mail.port)),
      ("SMTP_FROM", .text mail.sender),
      ("SMTP_STARTTLS", .text (toString mail.starttls))]
      ++ (mail.user.map fun user => ("SMTP_USER", Setting.text user)).toList
      ++ (mail.passwordSecret.map fun identifier =>
        ("SMTP_PASSWORD", Setting.secret identifier .password)).toList

def storageSettings (model : Model) : Settings :=
  [("MINIO_ENDPOINT", .port ("http://" ++ ObjectStore.service ++ ":") PortKey.minioApi ""),
    ("MINIO_ROOT_USER", .secret SecretId.minioRoot .username),
    ("MINIO_ROOT_PASSWORD", .secret SecretId.minioRoot .password),
    ("BUCKETS", .text (String.intercalate "," model.storage.buckets)),
    ("PUBLIC_BUCKET", .text model.storage.publicBucket),
    ("STATE_CONFIGMAP", .text stateConfigMap)]

def settings (model : Model) (config : Configuration) : Settings :=
  identitySettings model ++ adminSettings config.admin ++ mailSettings config
    ++ storageSettings model

theorem realized_identityEnvironment {env : List EnvVar}
    (made : identityEnvironment model config = .ok env) :
    Realized model config (identitySettings model) env := by
  simp only [identityEnvironment, Outcome.bind_eq_ok, Except.ok.injEq] at made
  obtain ⟨url, urls, user, users, password, passwords, apiClient, apiClients, secret, secrets,
    webClient, webClients, rfl⟩ := made
  simp [Realized, identitySettings, IdentityProvider.resolve_internalSetting urls,
    Setting.resolve_client_eq_ok, users, passwords, apiClients, secrets, webClients]

theorem realized_adminEnvironment (admin : Contact) :
    Realized model config (adminSettings admin) (adminEnvironment admin) := by
  unfold adminSettings adminEnvironment
  cases admin.name <;> simp [Realized]

theorem realized_mailEnvironment {env : List EnvVar} (made : mailEnvironment config = .ok env) :
    Realized model config (mailSettings config) env := by
  unfold mailEnvironment at made
  unfold mailSettings
  cases relay : config.mail with
  | none =>
    rw [relay] at made
    cases made
    exact .nil
  | some mail =>
    rw [relay] at made
    obtain ⟨host, port, sender, user, passwordSecret, starttls⟩ := mail
    have server : Realized model config
        ([("SMTP_HOST", .text host), ("SMTP_PORT", .text (toString port)),
          ("SMTP_FROM", .text sender), ("SMTP_STARTTLS", .text (toString starttls))]
          ++ (user.map fun user => ("SMTP_USER", Setting.text user)).toList)
        ([.literal "SMTP_HOST" host, .literal "SMTP_PORT" (toString port),
          .literal "SMTP_FROM" sender, .literal "SMTP_STARTTLS" (toString starttls)]
          ++ (user.map (EnvVar.literal "SMTP_USER")).toList) := by
      cases user <;> simp [Realized]
    cases passwordSecret with
    | none =>
      cases made
      exact server.append .nil
    | some identifier =>
      simp only [Outcome.bind_eq_ok, Outcome.map_eq_ok, Except.ok.injEq] at made
      obtain ⟨_, ⟨password, passwords, rfl⟩, rfl⟩ := made
      exact server.append (.cons passwords .nil)

theorem realized_storageEnvironment {env : List EnvVar}
    (made : storageEnvironment model config = .ok env) :
    Realized model config (storageSettings model) env := by
  simp only [storageEnvironment, Outcome.bind_eq_ok, Except.ok.injEq] at made
  obtain ⟨port, ports, user, users, password, passwords, rfl⟩ := made
  have url : ∀ name, (Setting.port ("http://" ++ ObjectStore.service ++ ":") PortKey.minioApi
      "").resolve model config name = .ok (.literal name _) :=
    fun name => Setting.resolve_port ports (String.append_empty ..)
  simp [Realized, storageSettings, url, users, passwords]

theorem realized_environment {env : List EnvVar} (made : environment model config = .ok env) :
    Realized model config (settings model config) env := by
  simp only [environment, Outcome.bind_eq_ok, Except.ok.injEq] at made
  obtain ⟨identity, identities, mail, mails, storage, storages, rfl⟩ := made
  exact (((realized_identityEnvironment identities).append
    (realized_adminEnvironment config.admin)).append (realized_mailEnvironment mails)).append
    (realized_storageEnvironment storages)

end InitJob

end PlatformManifests
