import PlatformManifests.Proofs.Credentials
import PlatformManifests.Proofs.Hosts

/-!
The secret of the certificate. Its name comes from the namespace, while the names of credentials are
chosen freely, and no rule keeps the two apart. Workloads refer to just the secrets that the
platform knows, so they are kept apart exactly if the configuration gives none of these that name.
-/
namespace PlatformManifests

variable {model : Model} {config : Configuration} {set : ResourceSet}

/-! ### References of workloads -/

/-- Some variable of a container takes its value from the secret of this name. -/
def ResourceSet.NamesSecret (set : ResourceSet) (name : String) : Prop :=
  ∃ env source, set.Tells env ∧ env.valueFrom = some source ∧ source.secretKeyRef.name = name

/-- Each secret of every deployment is asked for by a workload. -/
theorem exists_listed_secret : ∀ identifier ∈ SecretId.all, ∃ entry ∈ workloads model config,
    ∃ name field, (name, Setting.secret identifier field) ∈ entry.2 := by
  have superuser : ("POSTGRES_PASSWORD", .secret SecretId.postgresSuperuser .password) ∈
      Database.settings model := by simp [Database.settings]
  have identity : ("IDENTITY_DB_PASSWORD", .secret SecretId.postgresIdentity .password) ∈
      Database.settings model := by simp [Database.settings]
  have application : ("APP_DB_PASSWORD", .secret SecretId.postgresApplication .password) ∈
      Database.settings model := by simp [Database.settings]
  have elastic : ("ELASTIC_PASSWORD", .secret SecretId.elastic .password) ∈
      SearchIndex.settings := by simp [SearchIndex.settings]
  have admin : ("KC_BOOTSTRAP_ADMIN_PASSWORD", .secret SecretId.keycloakAdmin .password) ∈
      IdentityProvider.settings model config := by simp [IdentityProvider.settings]
  have client : ("OIDC_CLIENT_SECRET", .secret SecretId.catalogApiClient .clientSecret) ∈
      CatalogApi.settings model config := by
    simp [CatalogApi.settings, CatalogApi.identitySettings]
  simp only [SecretId.all, List.forall_mem_cons]
  exact ⟨⟨_, Database.listed, _, _, superuser⟩, ⟨_, Database.listed, _, _, identity⟩,
    ⟨_, Database.listed, _, _, application⟩, ⟨_, Cache.listed, _, _, .head _⟩,
    ⟨_, SearchIndex.listed, _, _, elastic⟩, ⟨_, ObjectStore.listed, _, _, .head _⟩,
    ⟨_, IdentityProvider.listed, _, _, admin⟩, ⟨_, CatalogApi.listed, _, _, client⟩,
    List.forall_mem_nil _⟩

theorem exists_listed_of_knows {identifier : String} (known : config.Knows identifier) :
    ∃ entry ∈ workloads model config, ∃ name field,
      (name, Setting.secret identifier field) ∈ entry.2 := by
  rcases known with listed | ⟨mail, relay, chosen⟩
  · exact exists_listed_secret identifier listed
  · have password : ("SMTP_PASSWORD", .secret identifier .password) ∈
        InitJob.settings model config := by
      simp [InitJob.settings, InitJob.mailSettings, relay, chosen]
    exact ⟨_, InitJob.listed, _, _, password⟩

/-- Workloads refer to the secrets that the platform knows, and to no others. -/
theorem namesSecret_iff (composed : compose model config Generator.all = .ok set) {name : String} :
    set.NamesSecret name ↔
      ∃ identifier, config.Knows identifier ∧ config.secrets.get? identifier = some name := by
  constructor
  · rintro ⟨env, source, told, taken, rfl⟩
    obtain ⟨entry, member, setting, inside, resolved⟩ := exists_setting_of_tells composed told
    have guarded := workloads_guarded entry member _ inside
    exact ((guarded.referenced resolved).known source taken).2
  · rintro ⟨identifier, known, held⟩
    obtain ⟨entry, member, _, field, inside⟩ := exists_listed_of_knows known
    obtain ⟨env, resolved, told⟩ := exists_tells composed member inside
    obtain ⟨secret, found, rfl⟩ := Configuration.secretEnv_eq_ok.mp resolved
    exact ⟨_, _, told, rfl, Option.some.inj (found.symm.trans held)⟩

/-! ### The secret of the certificate -/

namespace ResourceSet

/-- A certificate is stored in the secret of this name. -/
def WritesTls (set : ResourceSet) (name : String) : Prop :=
  ∃ key manifest, set.get? key = some (.certificate manifest) ∧ manifest.body.secretName = name

/-- An ingress takes its certificate from the secret of this name. -/
def ReadsTls (set : ResourceSet) (name : String) : Prop :=
  ∃ key manifest, set.get? key = some (.ingress manifest) ∧
    name ∈ manifest.body.tls.map IngressTls.secretName

end ResourceSet

theorem writesTls_iff (composed : compose model config Generator.all = .ok set)
    (secure : config.scheme = .https) {name : String} :
    set.WritesTls name ↔ name = config.tlsSecretName := by
  constructor
  · rintro ⟨key, manifest, found, rfl⟩
    obtain ⟨_, same⟩ := certificate_eq composed found
    cases same
    rfl
  · rintro rfl
    exact ⟨_, _, get?_certificate composed secure, rfl⟩

theorem readsTls_iff (composed : compose model config Generator.all = .ok set)
    (secure : config.scheme = .https) {name : String} :
    set.ReadsTls name ↔ name = config.tlsSecretName := by
  have blocks {gateway : Gateway} {manifest : Manifest Ingress}
      (opens : gateway.Opens model config manifest) :
      manifest.body.tls.map IngressTls.secretName = [config.tlsSecretName] := by
    rw [opens.tls, Route.tls, secure]
    rfl
  constructor
  · rintro ⟨key, manifest, found, member⟩
    obtain ⟨gateway, _, opens⟩ := exists_gateway composed found
    rw [blocks opens] at member
    exact List.mem_singleton.mp member
  · rintro rfl
    obtain ⟨key, manifest, found, _⟩ :=
      (routesHost_iff composed).mpr ⟨"", List.mem_cons_self, rfl⟩
    obtain ⟨gateway, _, opens⟩ := exists_gateway composed found
    refine ⟨key, manifest, found, ?_⟩
    rw [blocks opens]
    exact List.mem_singleton_self _

/-- Under https the certificate is written to one secret, and the ingresses read that one alone. No
workload refers to it exactly if none of the secrets that the platform knows has its name. -/
theorem compose_all_tls_secret_apart_iff
    (composed : compose model config Generator.all = .ok set) (secure : config.scheme = .https) :
    (∀ name, set.WritesTls name ↔ name = config.tlsSecretName) ∧
    (∀ name, set.ReadsTls name ↔ name = config.tlsSecretName) ∧
    ((∀ name, set.NamesSecret name → ¬ set.WritesTls name ∧ ¬ set.ReadsTls name) ↔
      ∀ identifier, config.Knows identifier →
        config.secrets.get? identifier ≠ some config.tlsSecretName) := by
  refine ⟨fun _ => writesTls_iff composed secure, fun _ => readsTls_iff composed secure, ?_⟩
  simp only [writesTls_iff composed secure, readsTls_iff composed secure, and_self]
  constructor
  · intro apart identifier known held
    exact apart _ ((namesSecret_iff composed).mpr ⟨identifier, known, held⟩) rfl
  · rintro apart name named rfl
    obtain ⟨identifier, known, held⟩ := (namesSecret_iff composed).mp named
    exact apart identifier known held

theorem compose_demonstration_tls_secret_apart :
    ∃ set, compose Model.standard Configuration.demonstration Generator.all = .ok set ∧
      ∀ name, set.NamesSecret name → ¬ set.WritesTls name ∧ ¬ set.ReadsTls name := by
  obtain ⟨set, composed⟩ := exists_compose_demonstration
  obtain ⟨_, _, apart⟩ := compose_all_tls_secret_apart_iff composed rfl
  refine ⟨set, composed, apart.mpr ?_⟩
  have listed : ∀ identifier ∈ SecretId.all,
      Configuration.demonstration.secrets.get? identifier ≠
        some Configuration.demonstration.tlsSecretName := by decide +kernel
  rintro identifier (known | ⟨mail, relay, _⟩)
  · exact listed identifier known
  · cases relay

/-! ### One secret for both -/

/-- Nothing is lost when a secret gets another name. -/
theorem Complete.insertSecret (complete : Complete model config) (identifier name : String) :
    Complete model { config with secrets := config.secrets.insert identifier name } := by
  have kept {other : String} (held : config.secrets.contains other) :
      (config.secrets.insert identifier name).contains other := by
    rw [Dict.contains] at held ⊢
    rw [Dict.get?_insert]
    split
    · rfl
    · exact held
  exact { complete with
    secrets := fun other listed => kept (complete.secrets other listed)
    mailPassword := fun mail other relay chosen =>
      kept (complete.mailPassword mail other relay chosen) }

/-- The demonstration with the password of the cache in the secret of the certificate. -/
def Configuration.overwritten : Configuration :=
  { demonstration with secrets := demonstration.secrets.insert SecretId.redis "demo-tls" }

/-- Validation accepts it, and the certificate is written over the password. -/
theorem compose_overwritten_tls_secret :
    Configuration.overwritten.scheme = .https ∧
      Configuration.overwritten.validate = .ok () ∧
      ∃ set, compose Model.standard Configuration.overwritten Generator.all = .ok set ∧
        set.NamesSecret "demo-tls" ∧ set.WritesTls "demo-tls" ∧ set.ReadsTls "demo-tls" := by
  have valid : Configuration.overwritten.validate = .ok () := by decide +kernel
  have modelValid : Model.standard.validate = .ok () := by decide +kernel
  have complete := complete_demonstration.insertSecret SecretId.redis "demo-tls"
  obtain ⟨set, composed⟩ := (exists_compose_iff_complete valid modelValid).mpr complete
  have own : "demo-tls" = Configuration.overwritten.tlsSecretName := by decide +kernel
  have known : Configuration.overwritten.Knows SecretId.redis := .inl (by decide)
  have held : Configuration.overwritten.secrets.get? SecretId.redis = some "demo-tls" := by
    decide +kernel
  exact ⟨rfl, valid, set, composed, (namesSecret_iff composed).mpr ⟨_, known, held⟩,
    (writesTls_iff composed rfl).mpr own, (readsTls_iff composed rfl).mpr own⟩

end PlatformManifests
