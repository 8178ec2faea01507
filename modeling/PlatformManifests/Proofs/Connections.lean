import PlatformManifests.Proofs.Endpoint
import PlatformManifests.Proofs.Routing
import PlatformManifests.Proofs.Workloads

/-!
Connections. A server is set up with accounts, secrets and names, and its clients are told of them
in variables of their own. Both ends take them from the same settings, so they agree.
-/
namespace PlatformManifests

variable {model : Model} {config : Configuration}

/-! ### Places -/

/-- A variable of the main container of a workload. -/
structure Place where
  workload : String
  name : String
deriving DecidableEq

namespace ResourceSet

def text? (set : ResourceSet) (place : Place) : Option String :=
  (set.envVar? place.workload place.name).bind EnvVar.text?

def secret? (set : ResourceSet) (place : Place) : Option SecretKey :=
  (set.envVar? place.workload place.name).bind EnvVar.secret?

def SharesText (set : ResourceSet) (link : Place × Place) : Prop :=
  ∃ value, set.text? link.1 = some value ∧ set.text? link.2 = some value

def SharesSecret (set : ResourceSet) (link : Place × Place) : Prop :=
  ∃ secret, set.secret? link.1 = some secret ∧ set.secret? link.2 = some secret

end ResourceSet

namespace Endpoint

/-- What an address names at its endpoint: all that follows the slash after the port. -/
def targetOf? (address : String) : Option String :=
  match ((afterScheme? address.toList).getD address.toList).dropWhile (· ≠ '/') with
  | _ :: target => some (String.ofList target)
  | [] => none

theorem targetOf?_eq_some {scheme host : String} (opened : afterScheme? scheme.toList = some [])
    (plain : PlainHost host) (port : UInt16) (target : String) :
    targetOf? (scheme ++ host ++ ":" ++ toString port ++ "/" ++ target) = some target := by
  have colon : ":".toList = [':'] := by decide
  have slash : "/".toList = ['/'] := by decide
  have written : (scheme ++ host ++ ":" ++ toString port ++ "/" ++ target).toList =
      scheme.toList ++ (host.toList ++ ':' :: (toString port).toList ++ '/' :: target.toList) := by
    simp only [String.toList_append, colon, slash, List.append_assoc, List.cons_append,
      List.nil_append]
  have noSlash := ne_slash_of_mem_authority plain port
  rw [targetOf?, written, afterScheme?_append opened, Option.getD_some,
    List.dropWhile_append_of_pos noSlash]
  simp

example : targetOf? "jdbc:postgresql://postgres:5432/keycloak" = some "keycloak" := by
  decide +kernel

end Endpoint

/-! ### Settings shared -/

section Composed

variable {set : ResourceSet} {key other name otherName : String} {settings further : Settings}

theorem text?_eq_some (composed : compose model config Generator.all = .ok set)
    (listed : (key, settings) ∈ workloads model config) {setting : Setting} {value : String}
    (inside : (name, setting) ∈ settings)
    (resolved : setting.resolve model config name = .ok (.literal name value)) :
    set.text? ⟨key, name⟩ = some value := by
  obtain ⟨held, settled, found⟩ := envVar?_eq_some composed listed inside
  obtain rfl := Except.ok.inj (resolved.symm.trans settled)
  rw [ResourceSet.text?, found]
  rfl

theorem secret?_eq_some (composed : compose model config Generator.all = .ok set)
    (listed : (key, settings) ∈ workloads model config) {identifier : String} {field : SecretField}
    (inside : (name, .secret identifier field) ∈ settings) :
    ∃ secret, config.secrets.get? identifier = some secret ∧
      set.secret? ⟨key, name⟩ = some ⟨secret, field.key⟩ := by
  obtain ⟨held, settled, found⟩ := envVar?_eq_some composed listed inside
  obtain ⟨secret, known, rfl⟩ := Configuration.secretEnv_eq_ok.mp settled
  refine ⟨secret, known, ?_⟩
  rw [ResourceSet.secret?, found]
  rfl

theorem sharesSecret (composed : compose model config Generator.all = .ok set)
    (identifier : String) (field : SecretField)
    (listed : (key, settings) ∈ workloads model config)
    (inside : (name, .secret identifier field) ∈ settings)
    (otherListed : (other, further) ∈ workloads model config)
    (otherInside : (otherName, .secret identifier field) ∈ further) :
    set.SharesSecret (⟨key, name⟩, ⟨other, otherName⟩) := by
  obtain ⟨secret, known, held⟩ := secret?_eq_some composed listed inside
  obtain ⟨otherSecret, otherKnown, otherHeld⟩ := secret?_eq_some composed otherListed otherInside
  obtain rfl := Option.some.inj (known.symm.trans otherKnown)
  exact ⟨_, held, otherHeld⟩

theorem Setting.exists_text {setting : Setting} {held : EnvVar} (plain : setting.isSecret = false)
    (resolved : setting.resolve model config name = .ok held) :
    ∃ value, ∀ name, setting.resolve model config name = .ok (.literal name value) := by
  cases setting with
  | text value => exact ⟨value, fun _ => rfl⟩
  | port before key after =>
    obtain ⟨port, found, _⟩ := resolve_port_eq_ok.mp resolved
    exact ⟨_, fun _ => resolve_port found rfl⟩
  | client key =>
    obtain ⟨client, found, _⟩ := resolve_client_eq_ok.mp resolved
    exact ⟨client, fun _ => resolve_client_eq_ok.mpr ⟨client, found, rfl⟩⟩
  | broker key =>
    obtain ⟨broker, found, _⟩ := resolve_broker_eq_ok.mp resolved
    exact ⟨broker, fun _ => resolve_broker_eq_ok.mpr ⟨broker, found, rfl⟩⟩
  | external subdomain path => exact ⟨_, fun _ => rfl⟩
  | secret identifier field => cases plain

theorem sharesText (composed : compose model config Generator.all = .ok set) (setting : Setting)
    (plain : setting.isSecret = false) (listed : (key, settings) ∈ workloads model config)
    (inside : (name, setting) ∈ settings) (otherListed : (other, further) ∈ workloads model config)
    (otherInside : (otherName, setting) ∈ further) :
    set.SharesText (⟨key, name⟩, ⟨other, otherName⟩) := by
  obtain ⟨held, resolved, _⟩ := envVar?_eq_some composed listed inside
  obtain ⟨value, texts⟩ := Setting.exists_text plain resolved
  exact ⟨value, text?_eq_some composed listed inside (texts name),
    text?_eq_some composed otherListed otherInside (texts otherName)⟩

end Composed

/-! ### Links -/

/-- Logins that a server asks for and a client gives. The client of the API logs in at the identity
provider, where the job registers it. -/
def secretLinks : List (Place × Place) :=
  [(⟨Database.workload, "IDENTITY_DB_PASSWORD"⟩, ⟨IdentityProvider.workload, "KC_DB_PASSWORD"⟩),
    (⟨Database.workload, "APP_DB_PASSWORD"⟩, ⟨CatalogApi.workload, "DATABASE_PASSWORD"⟩),
    (⟨Cache.workload, "REDIS_PASSWORD"⟩, ⟨CatalogApi.workload, "REDIS_PASSWORD"⟩),
    (⟨SearchIndex.workload, "ELASTIC_PASSWORD"⟩, ⟨CatalogApi.workload, "ELASTIC_PASSWORD"⟩),
    (⟨ObjectStore.workload, "MINIO_ROOT_USER"⟩, ⟨CatalogApi.workload, "MINIO_ACCESS_KEY"⟩),
    (⟨ObjectStore.workload, "MINIO_ROOT_PASSWORD"⟩, ⟨CatalogApi.workload, "MINIO_SECRET_KEY"⟩),
    (⟨ObjectStore.workload, "MINIO_ROOT_USER"⟩, ⟨InitJob.workload, "MINIO_ROOT_USER"⟩),
    (⟨ObjectStore.workload, "MINIO_ROOT_PASSWORD"⟩, ⟨InitJob.workload, "MINIO_ROOT_PASSWORD"⟩),
    (⟨IdentityProvider.workload, "KC_BOOTSTRAP_ADMIN_USERNAME"⟩,
      ⟨InitJob.workload, "KEYCLOAK_ADMIN_USER"⟩),
    (⟨IdentityProvider.workload, "KC_BOOTSTRAP_ADMIN_PASSWORD"⟩,
      ⟨InitJob.workload, "KEYCLOAK_ADMIN_PASSWORD"⟩),
    (⟨InitJob.workload, "API_CLIENT_SECRET"⟩, ⟨CatalogApi.workload, "OIDC_CLIENT_SECRET"⟩)]

/-- Names and addresses that both ends are told as they are. -/
def textLinks : List (Place × Place) :=
  [(⟨Database.workload, "IDENTITY_DB_USER"⟩, ⟨IdentityProvider.workload, "KC_DB_USERNAME"⟩),
    (⟨Database.workload, "APP_DB_USER"⟩, ⟨CatalogApi.workload, "DATABASE_USER"⟩),
    (⟨Database.workload, "APP_DB_NAME"⟩, ⟨CatalogApi.workload, "DATABASE_NAME"⟩),
    (⟨InitJob.workload, "API_CLIENT_ID"⟩, ⟨CatalogApi.workload, "OIDC_CLIENT_ID"⟩),
    (⟨InitJob.workload, "REALM"⟩, ⟨CatalogApi.workload, "KEYCLOAK_REALM"⟩),
    (⟨ObjectStore.workload, "MINIO_SERVER_URL"⟩, ⟨CatalogApi.workload, "MINIO_PUBLIC_URL"⟩),
    (⟨InitJob.workload, "PUBLIC_BUCKET"⟩, ⟨CatalogApi.workload, "MINIO_PUBLIC_BUCKET"⟩)]

section Composed

variable {set : ResourceSet}

theorem secrets_linked (composed : compose model config Generator.all = .ok set) :
    ∀ link ∈ secretLinks, set.SharesSecret link := by
  simp only [secretLinks, List.forall_mem_cons]
  refine ⟨?_, ?_, ?_, ?_, ?_, ?_, ?_, ?_, ?_, ?_, ?_, List.forall_mem_nil _⟩
  · exact sharesSecret composed SecretId.postgresIdentity .password
      Database.listed (by simp [Database.settings])
      IdentityProvider.listed (by simp [IdentityProvider.settings])
  · exact sharesSecret composed SecretId.postgresApplication .password
      Database.listed (by simp [Database.settings])
      CatalogApi.listed (by simp [CatalogApi.settings, CatalogApi.databaseSettings])
  · exact sharesSecret composed SecretId.redis .password
      Cache.listed (by simp [Cache.settings])
      CatalogApi.listed (by simp [CatalogApi.settings, CatalogApi.cacheSettings])
  · exact sharesSecret composed SecretId.elastic .password
      SearchIndex.listed (by simp [SearchIndex.settings])
      CatalogApi.listed (by simp [CatalogApi.settings, CatalogApi.searchSettings])
  · exact sharesSecret composed SecretId.minioRoot .username
      ObjectStore.listed (by simp [ObjectStore.settings])
      CatalogApi.listed (by simp [CatalogApi.settings, CatalogApi.storageSettings])
  · exact sharesSecret composed SecretId.minioRoot .password
      ObjectStore.listed (by simp [ObjectStore.settings])
      CatalogApi.listed (by simp [CatalogApi.settings, CatalogApi.storageSettings])
  · exact sharesSecret composed SecretId.minioRoot .username
      ObjectStore.listed (by simp [ObjectStore.settings])
      InitJob.listed (by simp [InitJob.settings, InitJob.storageSettings])
  · exact sharesSecret composed SecretId.minioRoot .password
      ObjectStore.listed (by simp [ObjectStore.settings])
      InitJob.listed (by simp [InitJob.settings, InitJob.storageSettings])
  · exact sharesSecret composed SecretId.keycloakAdmin .username
      IdentityProvider.listed (by simp [IdentityProvider.settings])
      InitJob.listed (by simp [InitJob.settings, InitJob.identitySettings])
  · exact sharesSecret composed SecretId.keycloakAdmin .password
      IdentityProvider.listed (by simp [IdentityProvider.settings])
      InitJob.listed (by simp [InitJob.settings, InitJob.identitySettings])
  · exact sharesSecret composed SecretId.catalogApiClient .clientSecret
      InitJob.listed (by simp [InitJob.settings, InitJob.identitySettings])
      CatalogApi.listed (by simp [CatalogApi.settings, CatalogApi.identitySettings])

theorem texts_linked (composed : compose model config Generator.all = .ok set) :
    ∀ link ∈ textLinks, set.SharesText link := by
  simp only [textLinks, List.forall_mem_cons]
  refine ⟨?_, ?_, ?_, ?_, ?_, ?_, ?_, List.forall_mem_nil _⟩
  · exact sharesText composed (.text model.database.identityProvider.user) rfl
      Database.listed (by simp [Database.settings])
      IdentityProvider.listed (by simp [IdentityProvider.settings])
  · exact sharesText composed (.text model.database.application.user) rfl
      Database.listed (by simp [Database.settings])
      CatalogApi.listed (by simp [CatalogApi.settings, CatalogApi.databaseSettings])
  · exact sharesText composed (.text model.database.application.database) rfl
      Database.listed (by simp [Database.settings])
      CatalogApi.listed (by simp [CatalogApi.settings, CatalogApi.databaseSettings])
  · exact sharesText composed (.client ClientKey.catalogApi) rfl
      InitJob.listed (by simp [InitJob.settings, InitJob.identitySettings])
      CatalogApi.listed (by simp [CatalogApi.settings, CatalogApi.identitySettings])
  · exact sharesText composed (.text model.identity.realm) rfl
      InitJob.listed (by simp [InitJob.settings, InitJob.identitySettings])
      CatalogApi.listed (by simp [CatalogApi.settings, CatalogApi.identitySettings])
  · exact sharesText composed (.external config.subdomains.storage "") rfl
      ObjectStore.listed (by simp [ObjectStore.settings])
      CatalogApi.listed (by simp [CatalogApi.settings, CatalogApi.storageSettings])
  · exact sharesText composed (.text model.storage.publicBucket) rfl
      InitJob.listed (by simp [InitJob.settings, InitJob.storageSettings])
      CatalogApi.listed (by simp [CatalogApi.settings, CatalogApi.storageSettings])

theorem database_named (composed : compose model config Generator.all = .ok set) :
    ∃ url database, set.text? ⟨IdentityProvider.workload, "KC_DB_URL"⟩ = some url ∧
      set.text? ⟨Database.workload, "IDENTITY_DB_NAME"⟩ = some database ∧
      Endpoint.targetOf? url = some database := by
  have inside : ("KC_DB_URL", .port ("jdbc:postgresql://" ++ Database.service ++ ":")
      PortKey.postgres ("/" ++ model.database.identityProvider.database)) ∈
        IdentityProvider.settings model config := by
    simp [IdentityProvider.settings]
  obtain ⟨held, resolved, _⟩ := envVar?_eq_some composed IdentityProvider.listed inside
  obtain ⟨port, found, _⟩ := Setting.resolve_port_eq_ok.mp resolved
  have url := text?_eq_some composed IdentityProvider.listed inside (Setting.resolve_port found rfl)
  have name := text?_eq_some composed Database.listed
    (show ("IDENTITY_DB_NAME", .text model.database.identityProvider.database) ∈
      Database.settings model by simp [Database.settings]) rfl
  refine ⟨_, _, url, name, ?_⟩
  rw [← String.append_assoc]
  exact Endpoint.targetOf?_eq_some (by decide) (by decide) port _

theorem issuer_named (composed : compose model config Generator.all = .ok set) :
    ∃ address realm, set.text? ⟨IdentityProvider.workload, "KC_HOSTNAME"⟩ = some address ∧
      set.text? ⟨InitJob.workload, "REALM"⟩ = some realm ∧
      set.text? ⟨CatalogApi.workload, "OIDC_ISSUER"⟩ = some (address ++ "/realms/" ++ realm) := by
  have address := text?_eq_some composed IdentityProvider.listed
    (show ("KC_HOSTNAME", .external config.subdomains.identity "") ∈
      IdentityProvider.settings model config by simp [IdentityProvider.settings]) rfl
  have realm := text?_eq_some composed InitJob.listed
    (show ("REALM", .text model.identity.realm) ∈ InitJob.settings model config by
      simp [InitJob.settings, InitJob.identitySettings]) rfl
  have issuer := text?_eq_some composed CatalogApi.listed
    (show ("OIDC_ISSUER", .external config.subdomains.identity
        ("/realms/" ++ model.identity.realm)) ∈ CatalogApi.settings model config by
      simp [CatalogApi.settings, CatalogApi.identitySettings]) rfl
  refine ⟨_, _, address, realm, ?_⟩
  rw [issuer, String.append_empty, String.append_assoc]

/-- Under the domain itself, the one path to the object store is that of the public bucket. -/
theorem bucket_routed (composed : compose model config Generator.all = .ok set) :
    ∃ bucket manifest rule, set.text? ⟨InitJob.workload, "PUBLIC_BUCKET"⟩ = some bucket ∧
      set.get? IngressRouter.route = some (.ingress manifest) ∧ manifest.body.rules = [rule] ∧
      rule.host = config.domain ∧
      (rule.http.paths.filter fun path => path.backend.service.name = ObjectStore.service).map
        IngressPath.path = ["/" ++ bucket] := by
  have bucket := text?_eq_some composed InitJob.listed
    (show ("PUBLIC_BUCKET", .text model.storage.publicBucket) ∈ InitJob.settings model config by
      simp [InitJob.settings, InitJob.storageSettings]) rfl
  have listed : (IngressRouter.route, IngressRouter.gateway model) ∈ gateways model config := by
    simp [gateways, gatewayRosters]
  obtain ⟨manifest, found, opens⟩ := exists_ingress composed listed
  obtain ⟨paths, rules, leads⟩ := opens.rules
  refine ⟨_, manifest, _, bucket, found, rules, rfl, ?_⟩
  cases leads with
  | cons api rest =>
    cases rest with
    | cons store none =>
      cases none
      obtain ⟨_, _, rfl⟩ := api
      obtain ⟨_, _, rfl⟩ := store
      rfl

end Composed

end PlatformManifests
