import PlatformManifests.Proofs.Routing
import PlatformManifests.Proofs.Workloads

/-!
Hosts. Subdomains of a valid configuration differ, so no two ingresses share a host. The hosts of
the ingresses are those of the configuration and of the certificate, and the external addresses
that workloads are told are addresses of such hosts.
-/
namespace PlatformManifests

variable {model : Model} {config : Configuration}

/-! ### Hosts of a configuration -/

namespace Configuration

/-- The subdomains that the platform serves; the domain itself is the empty one. -/
def served (config : Configuration) : List String :=
  ["", config.subdomains.identity, config.subdomains.storage, config.subdomains.storageConsole,
    config.subdomains.search]

theorem host_injective : Function.Injective config.host := by
  have longer : ∀ subdomain, subdomain ++ "." ++ config.domain ≠ config.domain := by
    intro subdomain same
    have lengths := congrArg String.length same
    have dot : ".".length = 1 := by decide
    simp only [String.length_append] at lengths
    omega
  intro first second same
  unfold host at same
  split at same <;> rename_i firstEmpty <;> split at same <;> rename_i secondEmpty
  · rw [String.isEmpty_iff.mp firstEmpty, String.isEmpty_iff.mp secondEmpty]
  · exact absurd same.symm (longer second)
  · exact absurd same (longer first)
  · simpa [String.append_left_inj] using same

theorem served_nodup (valid : config.validate = .ok ()) : config.served.Nodup := by
  have kept := (validate_eq_ok.mp valid).2.2.1
  obtain ⟨labels, distinct, _⟩ := Subdomains.violationsAfter_eq_nil.mp kept
  refine List.nodup_cons.mpr ⟨fun member => ?_, distinct⟩
  obtain ⟨entry, inside, empty⟩ :=
    List.mem_map.mp (show "" ∈ config.subdomains.fields.map Prod.snd from member)
  have label := labels entry inside
  rw [empty] at label
  exact absurd label (by decide)

theorem hosts_eq (config : Configuration) : config.hosts = config.served.map config.host := rfl

theorem hosts_nodup (valid : config.validate = .ok ()) : config.hosts.Nodup :=
  (served_nodup valid).map host_injective

end Configuration

/-! ### Hosts of ingresses -/

def ResourceSet.RoutesHost (set : ResourceSet) (host : String) : Prop :=
  ∃ key manifest, set.get? key = some (.ingress manifest) ∧
    host ∈ manifest.body.rules.map IngressRule.host

theorem Gateway.Opens.hosts_eq {gateway : Gateway} {manifest : Manifest Ingress}
    (opens : gateway.Opens model config manifest) :
    manifest.body.rules.map IngressRule.host = [config.host gateway.subdomain] := by
  obtain ⟨paths, rules, _⟩ := opens.rules
  rw [rules]
  rfl

theorem gateways_served :
    ((gateways model config).map fun entry => entry.2.subdomain).Perm config.served := by
  have order : ((gateways model config).map fun entry => entry.2.subdomain) =
      [config.subdomains.search, config.subdomains.storage, config.subdomains.storageConsole,
        config.subdomains.identity, ""] := rfl
  rw [order, Configuration.served, List.perm_iff_count]
  intro subdomain
  simp only [List.count_cons, List.count_nil]
  omega

section Composed

variable {set : ResourceSet}

theorem routesHost_iff (composed : compose model config Generator.all = .ok set) {host : String} :
    set.RoutesHost host ↔ ∃ subdomain ∈ config.served, config.host subdomain = host := by
  constructor
  · rintro ⟨key, manifest, found, inside⟩
    obtain ⟨gateway, listed, opens⟩ := exists_gateway composed found
    rw [opens.hosts_eq, List.mem_singleton] at inside
    have member := gateways_served.mem_iff.mp (List.mem_map.mpr ⟨(key, gateway), listed, rfl⟩)
    exact ⟨gateway.subdomain, member, inside.symm⟩
  · rintro ⟨subdomain, member, rfl⟩
    obtain ⟨entry, listed, rfl⟩ := List.mem_map.mp (gateways_served.mem_iff.mpr member)
    obtain ⟨manifest, found, opens⟩ := exists_ingress composed listed
    refine ⟨entry.1, manifest, found, ?_⟩
    rw [opens.hosts_eq]
    exact List.mem_singleton_self _

/-- Two ingresses with a host in common have the same key. -/
theorem key_eq_of_shared_host (composed : compose model config Generator.all = .ok set)
    {key other host : String} {first second : Manifest Ingress}
    (firstFound : set.get? key = some (.ingress first))
    (secondFound : set.get? other = some (.ingress second))
    (inFirst : host ∈ first.body.rules.map IngressRule.host)
    (inSecond : host ∈ second.body.rules.map IngressRule.host) : key = other := by
  obtain ⟨valid, _⟩ := compose_eq_ok.mp composed
  obtain ⟨gateway, listed, opens⟩ := exists_gateway composed firstFound
  obtain ⟨otherGateway, otherListed, otherOpens⟩ := exists_gateway composed secondFound
  rw [opens.hosts_eq, List.mem_singleton] at inFirst
  rw [otherOpens.hosts_eq, List.mem_singleton] at inSecond
  have subdomains := Configuration.host_injective (inFirst.symm.trans inSecond)
  have served := @gateways_served model config
  have distinct := served.nodup_iff.mpr (Configuration.served_nodup valid)
  exact congrArg Prod.fst (List.inj_on_of_nodup_map distinct listed otherListed subdomains)

end Composed

/-! ### External addresses -/

/-- The variables that hold external addresses, each with what follows the host. -/
def addressPaths (model : Model) : List (String × String) :=
  [("PUBLIC_URL", ""), ("KC_HOSTNAME", ""), ("MINIO_SERVER_URL", ""),
    ("MINIO_BROWSER_REDIRECT_URL", ""), ("MINIO_PUBLIC_URL", ""), ("WEB_ORIGIN", ""),
    ("OIDC_ISSUER", "/realms/" ++ model.identity.realm), ("WEB_REDIRECT_URI", "/*")]

def Settings.Addressed (model : Model) (config : Configuration) (settings : Settings) : Prop :=
  ∀ entry ∈ settings, ∀ address ∈ addressPaths model, entry.1 = address.1 →
    ∃ subdomain ∈ config.served, entry.2 = .external subdomain address.2

namespace Settings

theorem Addressed.append {settings further : Settings} (first : settings.Addressed model config)
    (second : further.Addressed model config) : (settings ++ further).Addressed model config :=
  List.forall_mem_append.mpr ⟨first, second⟩

theorem addressed_of_names {settings : Settings} {names : List String}
    (only : (settings.map Prod.fst).Sublist names)
    (other : ∀ name ∈ names, ∀ address ∈ addressPaths model, name ≠ address.1) :
    settings.Addressed model config := by
  intro entry member address listed same
  exact absurd same (other _ (only.subset (List.mem_map_of_mem member)) address listed)

end Settings

theorem workloads_addressed : ∀ entry ∈ workloads model config,
    entry.2.Addressed model config := by
  have database : (Database.settings model).Addressed model config := by
    simp [Settings.Addressed, Database.settings, addressPaths]
  have cache : Settings.Addressed model config Cache.settings := by
    simp [Settings.Addressed, Cache.settings, addressPaths]
  have search : Settings.Addressed model config SearchIndex.settings := by
    simp [Settings.Addressed, SearchIndex.settings, addressPaths]
  have storage : (ObjectStore.settings config).Addressed model config := by
    simp [Settings.Addressed, ObjectStore.settings, addressPaths, Configuration.served]
  have identity : (IdentityProvider.settings model config).Addressed model config := by
    simp [Settings.Addressed, IdentityProvider.settings, addressPaths, Configuration.served]
  have api : (CatalogApi.settings model config).Addressed model config := by
    simp [Settings.Addressed, CatalogApi.settings, CatalogApi.databaseSettings,
      CatalogApi.cacheSettings, CatalogApi.searchSettings, CatalogApi.storageSettings,
      CatalogApi.identitySettings, addressPaths, Configuration.served]
  have job : (InitJob.settings model config).Addressed model config := by
    have realm : (InitJob.identitySettings model).Addressed model config := by
      simp [Settings.Addressed, InitJob.identitySettings, addressPaths, Configuration.served]
    have admin : (InitJob.adminSettings config.admin).Addressed model config :=
      Settings.addressed_of_names (InitJob.adminSettings_sublist _) (by simp [addressPaths])
    have mail : (InitJob.mailSettings config).Addressed model config :=
      Settings.addressed_of_names InitJob.mailSettings_sublist (by simp [addressPaths])
    have buckets : (InitJob.storageSettings model).Addressed model config := by
      simp [Settings.Addressed, InitJob.storageSettings, addressPaths]
    exact ((realm.append admin).append mail).append buckets
  simp only [workloads, rosters, List.flatMap_cons, List.flatMap_nil, List.nil_append,
    List.cons_append, List.forall_mem_cons]
  exact ⟨database, cache, search, storage, identity, api, job, List.forall_mem_nil _⟩

theorem exists_listed_address : ∀ address ∈ addressPaths model, ∃ entry ∈ workloads model config,
    ∃ subdomain, (address.1, Setting.external subdomain address.2) ∈ entry.2 := by
  have site : ("PUBLIC_URL", .external "" "") ∈ CatalogApi.settings model config := by
    simp [CatalogApi.settings]
  have bucket : ("MINIO_PUBLIC_URL", .external config.subdomains.storage "") ∈
      CatalogApi.settings model config := by
    simp [CatalogApi.settings, CatalogApi.storageSettings]
  have issuer : ("OIDC_ISSUER", .external config.subdomains.identity
      ("/realms/" ++ model.identity.realm)) ∈ CatalogApi.settings model config := by
    simp [CatalogApi.settings, CatalogApi.identitySettings]
  have origin : ("WEB_ORIGIN", .external "" "") ∈ InitJob.settings model config := by
    simp [InitJob.settings, InitJob.identitySettings]
  have redirect : ("WEB_REDIRECT_URI", .external "" "/*") ∈ InitJob.settings model config := by
    simp [InitJob.settings, InitJob.identitySettings]
  simp only [addressPaths, List.forall_mem_cons]
  refine ⟨⟨_, CatalogApi.listed, _, site⟩, ⟨_, IdentityProvider.listed, _, .head _⟩, ?_, ?_,
    ⟨_, CatalogApi.listed, _, bucket⟩, ⟨_, InitJob.listed, _, origin⟩,
    ⟨_, CatalogApi.listed, _, issuer⟩, ⟨_, InitJob.listed, _, redirect⟩, List.forall_mem_nil _⟩
  · exact ⟨_, ObjectStore.listed, config.subdomains.storage, by simp [ObjectStore.settings]⟩
  · exact ⟨_, ObjectStore.listed, config.subdomains.storageConsole, by simp [ObjectStore.settings]⟩

section Composed

variable {set : ResourceSet}

theorem mem_hosts_iff (composed : compose model config Generator.all = .ok set) {host : String} :
    set.RoutesHost host ↔ host ∈ config.hosts := by
  rw [routesHost_iff composed, config.hosts_eq, List.mem_map]

/-- Every ingress has one rule, and no two ingresses share a host. Together their hosts are those
of the configuration; under https the one certificate is for each of them once. External addresses
that workloads are told are addresses of such hosts. -/
theorem compose_all_hosts (composed : compose model config Generator.all = .ok set) :
    (∀ key manifest, set.get? key = some (.ingress manifest) →
      ∃ rule, manifest.body.rules = [rule]) ∧
    (∀ key other first second firstRule secondRule, set.get? key = some (.ingress first) →
      set.get? other = some (.ingress second) → firstRule ∈ first.body.rules →
      secondRule ∈ second.body.rules → key ≠ other → firstRule.host ≠ secondRule.host) ∧
    (∀ host, set.RoutesHost host ↔ host ∈ config.hosts) ∧
    (config.scheme = .https → ∃ key manifest, set.get? key = some (.certificate manifest) ∧
      (∀ other held, set.get? other = some (.certificate held) → other = key) ∧
      manifest.body.dnsNames.Nodup ∧
      ∀ host, host ∈ manifest.body.dnsNames ↔ set.RoutesHost host) ∧
    ∀ name path, (name, path) ∈ addressPaths model →
      (∃ env, set.Tells env ∧ env.name = name) ∧
      ∀ env, set.Tells env → env.name = name → ∃ host, set.RoutesHost host ∧
        env = .literal name (config.scheme.name ++ "://" ++ host ++ path) := by
  obtain ⟨valid, _⟩ := compose_eq_ok.mp composed
  refine ⟨?_, ?_, fun host => mem_hosts_iff composed, ?_, ?_⟩
  · intro key manifest found
    obtain ⟨gateway, _, opens⟩ := exists_gateway composed found
    obtain ⟨paths, rules, _⟩ := opens.rules
    exact ⟨_, rules⟩
  · intro key other first second firstRule secondRule firstFound secondFound inFirst inSecond apart
      same
    refine apart (key_eq_of_shared_host composed firstFound secondFound
      (List.mem_map_of_mem inFirst) ?_)
    rw [same]
    exact List.mem_map_of_mem inSecond
  · intro secure
    refine ⟨_, _, get?_certificate composed secure, ?_, Configuration.hosts_nodup valid,
      fun host => (mem_hosts_iff composed).symm⟩
    intro other held found
    rw [← key_eq_of_composed composed found, (certificate_eq composed found).2]
    rfl
  · intro name path listed
    constructor
    · obtain ⟨entry, member, subdomain, inside⟩ := exists_listed_address (name, path) listed
      obtain ⟨held, resolved, told⟩ := exists_tells composed member inside
      exact ⟨held, told, Setting.name_eq resolved⟩
    · rintro env told rfl
      obtain ⟨entry, member, setting, inside, resolved⟩ := exists_setting_of_tells composed told
      obtain ⟨subdomain, served, external⟩ :=
        workloads_addressed entry member _ inside _ listed rfl
      obtain rfl : setting = .external subdomain path := external
      have routed := (routesHost_iff composed).mpr ⟨subdomain, served, rfl⟩
      exact ⟨_, routed, (Except.ok.inj resolved).symm⟩

end Composed

theorem compose_demonstration_hosts :
    ∃ set, compose Model.standard Configuration.demonstration Generator.all = .ok set ∧
      ∀ host, set.RoutesHost host ↔ host ∈ ["demo.example.org", "auth.demo.example.org",
        "s3.demo.example.org", "minio.demo.example.org", "search.demo.example.org"] := by
  have hosts : Configuration.demonstration.hosts = ["demo.example.org", "auth.demo.example.org",
      "s3.demo.example.org", "minio.demo.example.org", "search.demo.example.org"] := by
    decide +kernel
  obtain ⟨set, composed⟩ := exists_compose_demonstration
  obtain ⟨_, _, routed, _⟩ := compose_all_hosts composed
  exact ⟨set, composed, hosts ▸ routed⟩

end PlatformManifests
