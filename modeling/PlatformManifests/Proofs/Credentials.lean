import Mathlib.Data.List.Infix
import PlatformManifests.Proofs.Selection
import PlatformManifests.Proofs.Workloads

/-!
Credentials. Each variable of a container has one source, and it has a secret as its source wherever
its name announces a credential. The secrets are those that the platform knows, and the one of the
mail relay.
-/
namespace PlatformManifests

variable {model : Model} {config : Configuration}

/-- The identifiers of the secrets that every deployment has. -/
def SecretId.all : List String :=
  [postgresSuperuser, postgresIdentity, postgresApplication, redis, elastic, minioRoot,
    keycloakAdmin, catalogApiClient]

/-- The secret is one of every deployment, or that of the mail relay. -/
def Configuration.Knows (config : Configuration) (identifier : String) : Prop :=
  identifier ∈ SecretId.all ∨
    ∃ mail, config.mail = some mail ∧ mail.passwordSecret = some identifier

@[simp] theorem Configuration.knows_of_mem {identifier : String}
    (listed : identifier ∈ SecretId.all) : config.Knows identifier :=
  .inl listed

def AnnouncesCredential (name : String) : Prop :=
  "PASSWORD".toList <:+: name.toList ∨ "SECRET".toList <:+: name.toList

instance (name : String) : Decidable (AnnouncesCredential name) :=
  inferInstanceAs (Decidable (_ ∨ _))

/-- The variable has a literal value, or refers to a value of a known secret. -/
structure EnvVar.Referenced (config : Configuration) (env : EnvVar) : Prop where
  exclusive : env.value = none ↔ env.valueFrom.isSome
  hidden : AnnouncesCredential env.name → env.valueFrom.isSome
  known : ∀ source, env.valueFrom = some source →
    source.secretKeyRef.key ∈ ["username", "password", "client-secret"] ∧
      ∃ identifier, config.Knows identifier ∧
        config.secrets.get? identifier = some source.secretKeyRef.name

theorem EnvVar.referenced_literal {name value : String} (plain : ¬ AnnouncesCredential name) :
    (literal name value).Referenced config where
  exclusive := by simp [literal]
  hidden := fun announced => absurd announced plain
  known := by
    rintro _ ⟨⟩

theorem SecretField.key_mem (field : SecretField) :
    field.key ∈ ["username", "password", "client-secret"] := by
  cases field <;> simp [key]

/-! ### Settings -/

namespace Setting

/-- Credentials are looked up, and only in known secrets. -/
@[simp] def Guarded (config : Configuration) (name : String) : Setting → Prop
  | secret identifier _ => config.Knows identifier
  | _ => ¬ AnnouncesCredential name

theorem Guarded.referenced {name : String} {setting : Setting} {env : EnvVar}
    (guarded : setting.Guarded config name)
    (resolved : setting.resolve model config name = .ok env) : env.Referenced config := by
  cases setting with
  | text value =>
    cases resolved
    exact EnvVar.referenced_literal guarded
  | port before key after =>
    obtain ⟨port, _, rfl⟩ := resolve_port_eq_ok.mp resolved
    exact EnvVar.referenced_literal guarded
  | client key =>
    obtain ⟨client, _, rfl⟩ := resolve_client_eq_ok.mp resolved
    exact EnvVar.referenced_literal guarded
  | broker key =>
    obtain ⟨broker, _, rfl⟩ := resolve_broker_eq_ok.mp resolved
    exact EnvVar.referenced_literal guarded
  | external subdomain path =>
    cases resolved
    exact EnvVar.referenced_literal guarded
  | secret identifier field =>
    obtain ⟨secret, held, rfl⟩ := Configuration.secretEnv_eq_ok.mp resolved
    refine ⟨by simp [EnvVar.ofSource], fun _ => rfl, ?_⟩
    rintro _ ⟨⟩
    exact ⟨field.key_mem, identifier, guarded, held⟩

end Setting

def Settings.Guarded (config : Configuration) (settings : Settings) : Prop :=
  ∀ entry ∈ settings, entry.2.Guarded config entry.1

@[simp] theorem Settings.guarded_nil : Settings.Guarded config [] := List.forall_mem_nil _

@[simp] theorem Settings.guarded_cons {entry : String × Setting} {rest : Settings} :
    Settings.Guarded config (entry :: rest) ↔
      entry.2.Guarded config entry.1 ∧ rest.Guarded config :=
  List.forall_mem_cons

theorem Settings.Guarded.append {settings further : Settings} (first : settings.Guarded config)
    (second : further.Guarded config) : (settings ++ further).Guarded config :=
  List.forall_mem_append.mpr ⟨first, second⟩

/-! ### Components -/

theorem Database.guarded : (settings model).Guarded config := by
  simp +decide [settings]

theorem Cache.guarded : Settings.Guarded config settings := by
  simp +decide [settings]

theorem SearchIndex.guarded : Settings.Guarded config settings := by
  simp +decide [settings]

theorem ObjectStore.guarded : (settings config).Guarded config := by
  simp +decide [settings]

theorem IdentityProvider.guarded : (settings model config).Guarded config := by
  simp +decide [settings]

theorem CatalogApi.guarded : (settings model config).Guarded config := by
  simp +decide [settings, databaseSettings, cacheSettings, searchSettings, storageSettings,
    identitySettings, IdentityProvider.internalSetting]

namespace InitJob

theorem adminSettings_guarded (admin : Contact) : (adminSettings admin).Guarded config := by
  unfold adminSettings
  cases admin.name <;> simp +decide

/-- The password of the relay is the one credential whose secret the configuration chooses. -/
theorem mailSettings_guarded : (mailSettings config).Guarded config := by
  unfold mailSettings
  cases relay : config.mail with
  | none => exact List.forall_mem_nil _
  | some mail =>
    have server : Settings.Guarded config [("SMTP_HOST", .text mail.host),
        ("SMTP_PORT", .text (toString mail.port)), ("SMTP_FROM", .text mail.sender),
        ("SMTP_STARTTLS", .text (toString mail.starttls))] := by
      simp +decide
    have login : Settings.Guarded config
        (mail.user.map fun user => ("SMTP_USER", Setting.text user)).toList := by
      cases mail.user <;> simp +decide
    have password : Settings.Guarded config (mail.passwordSecret.map fun identifier =>
        ("SMTP_PASSWORD", Setting.secret identifier .password)).toList := by
      cases chosen : mail.passwordSecret with
      | none => exact List.forall_mem_nil _
      | some identifier => exact List.forall_mem_singleton.mpr (.inr ⟨mail, relay, chosen⟩)
    exact (server.append login).append password

theorem guarded : (settings model config).Guarded config := by
  have realm : (identitySettings model).Guarded config := by
    simp +decide [identitySettings, IdentityProvider.internalSetting]
  have buckets : (storageSettings model).Guarded config := by
    simp +decide [storageSettings]
  exact ((realm.append (adminSettings_guarded config.admin)).append mailSettings_guarded).append
    buckets

end InitJob

theorem workloads_guarded : ∀ entry ∈ workloads model config, entry.2.Guarded config := by
  simp only [workloads, rosters, List.flatMap_cons, List.flatMap_nil, List.nil_append,
    List.cons_append, List.forall_mem_cons]
  exact ⟨Database.guarded, Cache.guarded, SearchIndex.guarded, ObjectStore.guarded,
    IdentityProvider.guarded, CatalogApi.guarded, InitJob.guarded, List.forall_mem_nil _⟩

/-! ### Containers -/

/-- No variable is set twice, and each has one source. -/
structure Container.Referenced (config : Configuration) (container : Container) : Prop where
  distinct : (container.env.map EnvVar.name).Nodup
  sources : ∀ env ∈ container.env, env.Referenced config

theorem Realized.referenced {settings : Settings} {container : Container}
    (realized : Realized model config settings container.env)
    (distinct : (settings.map Prod.fst).Nodup) (guarded : settings.Guarded config) :
    container.Referenced config where
  distinct := realized.map_name ▸ distinct
  sources := by
    intro env member
    obtain ⟨setting, inside, resolved⟩ := realized.exists_setting member
    exact (guarded _ inside).referenced resolved

theorem PodTemplate.Runs.referenced {settings : Settings} {template : PodTemplate}
    (runs : template.Runs model config settings) (distinct : (settings.map Prod.fst).Nodup)
    (guarded : settings.Guarded config) :
    ∀ container ∈ template.spec.initContainers ++ template.spec.containers,
      container.Referenced config := by
  obtain ⟨main, only, realized⟩ := runs.main
  intro container member
  rcases List.mem_append.mp member with waiting | working
  · have env := runs.waiting container waiting
    refine ⟨?_, ?_⟩ <;> simp [env]
  · rw [only, List.mem_singleton] at working
    rw [working]
    exact realized.referenced distinct guarded

theorem map_fst_rosters : (rosters model config).map Prod.fst = Generator.all := rfl

/-- Whichever components are composed, their workloads are among those of the platform. -/
theorem exists_settings_of_selected {names : List String} {generators : List Generator}
    {set : ResourceSet} (chosen : Generator.select names = .ok generators)
    (composed : compose model config generators = .ok set) {key : String} {resource : Resource}
    (held : set.get? key = some resource) {template : PodTemplate}
    (running : resource.template? = some template) :
    ∃ settings, (key, settings) ∈ workloads model config ∧
      template.Runs model config settings := by
  obtain ⟨generator, member, descriptor, made, found, _⟩ := exists_maker composed held
  have builtIn := (sublist_of_select chosen).subset member
  rw [← @map_fst_rosters model config] at builtIn
  obtain ⟨roster, listed, rfl⟩ := List.mem_map.mp builtIn
  obtain ⟨settings, inside, runs⟩ := (rosters_run roster listed descriptor made).only found running
  exact ⟨settings, List.mem_flatMap.mpr ⟨roster, listed, inside⟩, runs⟩

/-- Whichever components are composed, no container sets a variable twice, and no credential is
written out: each is taken from a secret that the configuration names. -/
theorem compose_selected_referenced {names : List String} {generators : List Generator}
    {set : ResourceSet} (chosen : Generator.select names = .ok generators)
    (composed : compose model config generators = .ok set) :
    ∀ key resource template, set.get? key = some resource →
      resource.template? = some template →
      ∀ container ∈ template.spec.initContainers ++ template.spec.containers,
        container.Referenced config := by
  intro key resource template held running
  obtain ⟨settings, listed, runs⟩ := exists_settings_of_selected chosen composed held running
  exact runs.referenced (workloads_distinct _ listed) (workloads_guarded _ listed)

/-- The demonstration with a named administrator and a mail relay that asks for a password. -/
def Configuration.relayed : Configuration :=
  { demonstration with
    secrets := demonstration.secrets.insert "relay" "relay-login"
    admin := ⟨"admin@demo.example.org", some "Admin"⟩
    mail := some ⟨"mail.example.org", MailRelay.standardPort, "platform@demo.example.org",
      some "platform", some "relay", true⟩ }

/-- The job that sets up the mail refers to the secret that the configuration chose for it. -/
theorem compose_relayed_referenced :
    ∃ set container, compose Model.standard Configuration.relayed [InitJob.generator] = .ok set ∧
      set.mainContainer? InitJob.workload = some container ∧
      container.envVar? "SMTP_PASSWORD" =
        some (.ofSource "SMTP_PASSWORD" ⟨⟨"relay-login", "password"⟩⟩) ∧
      container.Referenced Configuration.relayed := by
  have chosen : Generator.select ["init-job"] = .ok [InitJob.generator] := rfl
  have told : ((compose Model.standard Configuration.relayed [InitJob.generator]).toOption.bind
      fun set => set.envVar? InitJob.workload "SMTP_PASSWORD") =
        some (.ofSource "SMTP_PASSWORD" ⟨⟨"relay-login", "password"⟩⟩) := by
    decide +kernel
  cases composed : compose Model.standard Configuration.relayed [InitJob.generator] with
  | error cause =>
    rw [composed] at told
    cases told
  | ok set =>
    rw [composed] at told
    change set.envVar? InitJob.workload "SMTP_PASSWORD" = some _ at told
    obtain ⟨container, main, password⟩ := Option.bind_eq_some_iff.mp told
    obtain ⟨resource, held, found⟩ := Option.bind_eq_some_iff.mp main
    obtain ⟨template, running, first⟩ := Option.bind_eq_some_iff.mp found
    have member : container ∈ template.spec.initContainers ++ template.spec.containers :=
      List.mem_append_right _ (List.mem_of_head? first)
    exact ⟨set, container, rfl, main, password,
      compose_selected_referenced chosen composed _ _ _ held running container member⟩

end PlatformManifests
