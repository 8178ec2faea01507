import PlatformManifests.Proofs.Catalogue
import PlatformManifests.Proofs.Settings

/-!
Workloads: which of them the platform has, and what their main containers are told. A workload is
found under the key of its kind and service, and a variable of it by the name.
-/
namespace PlatformManifests

variable {model : Model} {config : Configuration} {descriptor : Descriptor}

/-! ### Variables by name -/

namespace EnvVar

/-- The literal value, if the variable has no other source. -/
def text? (env : EnvVar) : Option String :=
  match env.valueFrom with
  | none => env.value
  | some _ => none

/-- The secret that the value is taken from, if the variable has no literal value. -/
def secret? (env : EnvVar) : Option SecretKey :=
  match env.value, env.valueFrom with
  | none, some source => some source.secretKeyRef
  | _, _ => none

end EnvVar

/-- The variable of a name, if there is just one. -/
def Container.envVar? (container : Container) (name : String) : Option EnvVar :=
  match container.env.filter fun env => env.name = name with
  | [env] => some env
  | _ => none

theorem Realized.map_name {settings : Settings} {env : List EnvVar}
    (realized : Realized model config settings env) :
    env.map EnvVar.name = settings.map Prod.fst := by
  induction realized with
  | nil => rfl
  | cons resolved _ ih => rw [List.map_cons, List.map_cons, Setting.name_eq resolved, ih]

theorem Realized.exists_setting {settings : Settings} {env : List EnvVar}
    (realized : Realized model config settings env) {held : EnvVar} (member : held ∈ env) :
    ∃ setting, (held.name, setting) ∈ settings ∧
      setting.resolve model config held.name = .ok held := by
  obtain ⟨⟨name, setting⟩, inside, resolved⟩ := exists_related realized.flip member
  obtain rfl := Setting.name_eq resolved
  exact ⟨setting, inside, resolved⟩

/-- If no name comes twice, then each name has the variable of its setting and no other. -/
theorem Realized.filter_name {settings : Settings} {env : List EnvVar}
    (realized : Realized model config settings env) (distinct : (settings.map Prod.fst).Nodup)
    {name : String} {setting : Setting} (inside : (name, setting) ∈ settings) :
    ∃ held, setting.resolve model config name = .ok held ∧
      env.filter (fun env => env.name = name) = [held] := by
  induction realized with
  | nil => cases inside
  | @cons entry head settings rest resolved tail ih =>
    obtain ⟨alone, restDistinct⟩ := List.nodup_cons.mp distinct
    have headName : head.name = entry.1 := Setting.name_eq resolved
    rcases List.mem_cons.mp inside with rfl | later
    · have others : rest.filter (fun env => env.name = name) = [] := by
        rw [List.filter_eq_nil_iff]
        intro other member named
        apply alone
        rw [← Realized.map_name tail]
        exact of_decide_eq_true named ▸ List.mem_map_of_mem member
      refine ⟨head, resolved, ?_⟩
      rw [List.filter_cons_of_pos (by simpa using headName), others]
    · have differ : head.name ≠ name := by
        intro same
        rw [headName] at same
        exact alone (same ▸ List.mem_map_of_mem later)
      obtain ⟨held, settled, found⟩ := ih restDistinct later
      refine ⟨held, settled, ?_⟩
      rw [List.filter_cons_of_neg (by simpa using differ), found]

theorem Realized.envVar?_eq_some {settings : Settings} {container : Container}
    (realized : Realized model config settings container.env)
    (distinct : (settings.map Prod.fst).Nodup) {name : String} {setting : Setting}
    (inside : (name, setting) ∈ settings) :
    ∃ held, setting.resolve model config name = .ok held ∧
      container.envVar? name = some held := by
  obtain ⟨held, resolved, single⟩ := realized.filter_name distinct inside
  exact ⟨held, resolved, by rw [Container.envVar?, single]⟩

/-- The container that does the work of a workload. -/
def Resource.mainContainer? (resource : Resource) : Option Container :=
  resource.template?.bind fun template => template.spec.containers.head?

theorem Resource.mainContainer?_eq_some {resource : Resource} {template : PodTemplate}
    {container : Container} (running : resource.template? = some template)
    (only : template.spec.containers = [container]) :
    resource.mainContainer? = some container := by
  rw [mainContainer?, running, Option.bind_some, only, List.head?_cons]

namespace ResourceSet

def mainContainer? (set : ResourceSet) (key : String) : Option Container :=
  (set.get? key).bind Resource.mainContainer?

def envVar? (set : ResourceSet) (key name : String) : Option EnvVar :=
  (set.mainContainer? key).bind fun container => container.envVar? name

def Tells (set : ResourceSet) (env : EnvVar) : Prop :=
  ∃ key resource template, set.get? key = some resource ∧ resource.template? = some template ∧
    ∃ container ∈ template.spec.initContainers ++ template.spec.containers, env ∈ container.env

end ResourceSet

/-! ### Workloads of components -/

/-- One container does the work, with the variables of the settings; those before it have none. -/
structure PodTemplate.Runs (model : Model) (config : Configuration) (settings : Settings)
    (template : PodTemplate) : Prop where
  waiting : ∀ container ∈ template.spec.initContainers, container.env = []
  main : ∃ container, template.spec.containers = [container] ∧
    Realized model config settings container.env

def Descriptor.Runs (model : Model) (config : Configuration) (entries : List (String × Settings))
    (descriptor : Descriptor) : Prop :=
  Catalogued descriptor.get? Resource.template? (PodTemplate.Runs model config) entries

theorem Owner.runs_podTemplate {owner : Owner} {pod : PodSpec} (steps : List WaitStep)
    {container : Container} {settings : Settings}
    (first : pod.initContainers = initContainers steps) (only : pod.containers = [container])
    (realized : Realized model config settings container.env) :
    (owner.podTemplate pod).Runs model config settings := by
  refine ⟨?_, container, only, realized⟩
  intro waiting member
  rw [Owner.podTemplate, first] at member
  obtain ⟨step, _, rfl⟩ := List.mem_map.mp member
  rfl

namespace Database

def workload : String := Kind.keyOf .statefulSet service

theorem runs (made : generate model config = .ok descriptor) :
    descriptor.Runs model config [(workload, settings model)] := by
  obtain ⟨port, env, check, image, size, _, envs, _, _, _, listed⟩ := generate_ok made
  have lists := (Descriptor.ofResources_eq_ok.mp listed).2.2
  have running : (owner.podTemplate (pod (container image port check env))).Runs model config
      (settings model) := Owner.runs_podTemplate [] rfl rfl (realized_environment envs)
  refine Tabulated.catalogued ?_ lists
  exact .entry rfl rfl running (.skip rfl (.skip rfl (.skip rfl .nil)))

end Database

namespace Cache

def workload : String := Kind.keyOf .statefulSet service

theorem runs (made : generate model config = .ok descriptor) :
    descriptor.Runs model config [(workload, settings)] := by
  obtain ⟨port, image, password, _, _, held, listed⟩ := generate_ok made
  have lists := (Descriptor.ofResources_eq_ok.mp listed).2.2
  have running : (owner.podTemplate (pod (container image port password))).Runs model config
      settings := Owner.runs_podTemplate [] rfl rfl (.cons held .nil)
  refine Tabulated.catalogued ?_ lists
  exact .entry rfl rfl running (.skip rfl .nil)

end Cache

namespace SearchIndex

def workload : String := Kind.keyOf .statefulSet service

theorem runs (made : generate model config = .ok descriptor) :
    descriptor.Runs model config [(workload, settings)] := by
  obtain ⟨port, env, image, size, found, envs, _, _, listed⟩ := generate_ok made
  have lists := (Descriptor.ofResources_eq_ok.mp listed).2.2
  have running : (owner.podTemplate (pod (container image port env))).Runs model config
      settings := Owner.runs_podTemplate [] rfl rfl (realized_environment found envs)
  refine Tabulated.catalogued ?_ lists
  exact .entry rfl rfl running (.skip rfl (.skip rfl (.skip rfl .nil)))

end SearchIndex

namespace ObjectStore

def workload : String := Kind.keyOf .statefulSet service

theorem runs (made : generate model config = .ok descriptor) :
    descriptor.Runs model config [(workload, settings config)] := by
  obtain ⟨apiPort, consolePort, env, image, size, _, _, envs, _, _, listed⟩ := generate_ok made
  have lists := (Descriptor.ofResources_eq_ok.mp listed).2.2
  have running : (owner.podTemplate (pod (container image apiPort consolePort env))).Runs model
      config (settings config) := Owner.runs_podTemplate [] rfl rfl (realized_environment envs)
  refine Tabulated.catalogued ?_ lists
  exact .entry rfl rfl running (.skip rfl (.skip rfl (.skip rfl (.skip rfl .nil))))

end ObjectStore

namespace IdentityProvider

def workload : String := Kind.keyOf .deployment service

theorem runs (made : generate model config = .ok descriptor) :
    descriptor.Runs model config [(workload, settings model config)] := by
  obtain ⟨httpPort, managementPort, databasePort, env, image, check, database, replicas, http,
    management, port, envs, _, _, _, _, listed⟩ := generate_ok made
  have lists := (Descriptor.ofResources_eq_ok.mp listed).2.2
  have running : (owner.podTemplate
      (pod [database] (container image httpPort managementPort check env))).Runs model config
      (settings model config) :=
    Owner.runs_podTemplate [database] rfl rfl (realized_environment http management port envs)
  refine Tabulated.catalogued ?_ lists
  exact .entry rfl rfl running (.skip rfl (.skip rfl .nil))

end IdentityProvider

namespace CatalogApi

def workload : String := Kind.keyOf .deployment service

theorem runs (made : generate model config = .ok descriptor) :
    descriptor.Runs model config [(workload, settings model config)] := by
  obtain ⟨port, waitImage, steps, image, env, replicas, found, _, _, _, envs, _, listed⟩ :=
    generate_ok made
  have lists := (Descriptor.ofResources_eq_ok.mp listed).2.2
  have running : (owner.podTemplate (pod steps (container image port env))).Runs model config
      (settings model config) :=
    Owner.runs_podTemplate steps rfl rfl (realized_environment found envs)
  refine Tabulated.catalogued ?_ lists
  exact .entry rfl rfl running (.skip rfl .nil)

end CatalogApi

theorem IngressRouter.runs (made : generate model config = .ok descriptor) :
    descriptor.Runs model config [] := by
  obtain ⟨routes, _, listed⟩ := generate_ok made
  have lists := (Descriptor.ofResources_eq_ok.mp listed).2.2
  refine Tabulated.catalogued ?_ lists
  exact .skip rfl (tabulated_certificates rfl)

namespace InitJob

def workload : String := Kind.keyOf .job name

theorem runs (made : generate model config = .ok descriptor) :
    descriptor.Runs model config [(workload, settings model config)] := by
  obtain ⟨steps, image, env, _, _, envs, listed⟩ := generate_ok made
  have lists := (Descriptor.ofResources_eq_ok.mp listed).2.2
  have running : (owner.podTemplate
      (pod steps ((Container.ofImage name image).withEnv env))).Runs model config
      (settings model config) := Owner.runs_podTemplate steps rfl rfl (realized_environment envs)
  refine Tabulated.catalogued ?_ lists
  exact .skip rfl (.skip rfl (.skip rfl (.entry rfl rfl running .nil)))

end InitJob

/-! ### Workloads of the platform -/

def rosters (model : Model) (config : Configuration) :
    List (Generator × List (String × Settings)) :=
  [(Database.generator, [(Database.workload, Database.settings model)]),
    (Cache.generator, [(Cache.workload, Cache.settings)]),
    (SearchIndex.generator, [(SearchIndex.workload, SearchIndex.settings)]),
    (ObjectStore.generator, [(ObjectStore.workload, ObjectStore.settings config)]),
    (IdentityProvider.generator,
      [(IdentityProvider.workload, IdentityProvider.settings model config)]),
    (CatalogApi.generator, [(CatalogApi.workload, CatalogApi.settings model config)]),
    (IngressRouter.generator, []),
    (InitJob.generator, [(InitJob.workload, InitJob.settings model config)])]

/-- All workloads by their keys, with the settings of their main containers. -/
def workloads (model : Model) (config : Configuration) : List (String × Settings) :=
  (rosters model config).flatMap Prod.snd

theorem rosters_run : ∀ roster ∈ rosters model config, ∀ descriptor,
    roster.1.generate model config = .ok descriptor →
      descriptor.Runs model config roster.2 := by
  simp only [rosters, List.forall_mem_cons]
  exact ⟨fun _ => Database.runs, fun _ => Cache.runs, fun _ => SearchIndex.runs,
    fun _ => ObjectStore.runs, fun _ => IdentityProvider.runs, fun _ => CatalogApi.runs,
    fun _ => IngressRouter.runs, fun _ => InitJob.runs, List.forall_mem_nil _⟩

theorem Database.listed : (workload, settings model) ∈ workloads model config := by
  simp [workloads, rosters]

theorem Cache.listed : (workload, settings) ∈ workloads model config := by
  simp [workloads, rosters]

theorem SearchIndex.listed : (workload, settings) ∈ workloads model config := by
  simp [workloads, rosters]

theorem ObjectStore.listed : (workload, settings config) ∈ workloads model config := by
  simp [workloads, rosters]

theorem IdentityProvider.listed : (workload, settings model config) ∈ workloads model config := by
  simp [workloads, rosters]

theorem CatalogApi.listed : (workload, settings model config) ∈ workloads model config := by
  simp [workloads, rosters]

theorem InitJob.listed : (workload, settings model config) ∈ workloads model config := by
  simp [workloads, rosters]

/-! ### Names of variables -/

theorem CatalogApi.map_fst_settings : (CatalogApi.settings model config).map Prod.fst =
    ["PUBLIC_URL", "API_ROOT_PATH", "DATABASE_HOST", "DATABASE_PORT", "DATABASE_NAME",
      "DATABASE_USER", "DATABASE_PASSWORD", "REDIS_URL", "REDIS_PASSWORD", "ELASTIC_URL",
      "ELASTIC_USER", "ELASTIC_PASSWORD", "MINIO_ENDPOINT", "MINIO_PUBLIC_URL",
      "MINIO_ACCESS_KEY", "MINIO_SECRET_KEY", "MINIO_PUBLIC_BUCKET", "KEYCLOAK_URL",
      "KEYCLOAK_REALM", "OIDC_ISSUER", "OIDC_CLIENT_ID", "OIDC_CLIENT_SECRET",
      "KAFKA_BOOTSTRAP_SERVERS", "PORT"] := rfl

namespace InitJob

/-- The names of all variables that the job may have. -/
def possibleNames : List String :=
  ["KEYCLOAK_URL", "KEYCLOAK_ADMIN_USER", "KEYCLOAK_ADMIN_PASSWORD", "REALM", "API_CLIENT_ID",
    "API_CLIENT_SECRET", "WEB_CLIENT_ID", "WEB_REDIRECT_URI", "WEB_ORIGIN", "ADMIN_EMAIL",
    "ADMIN_NAME", "SMTP_HOST", "SMTP_PORT", "SMTP_FROM", "SMTP_STARTTLS", "SMTP_USER",
    "SMTP_PASSWORD", "MINIO_ENDPOINT", "MINIO_ROOT_USER", "MINIO_ROOT_PASSWORD", "BUCKETS",
    "PUBLIC_BUCKET", "STATE_CONFIGMAP"]

theorem adminSettings_sublist (admin : Contact) :
    ((adminSettings admin).map Prod.fst).Sublist ["ADMIN_EMAIL", "ADMIN_NAME"] := by
  unfold adminSettings
  cases admin.name <;> simp

theorem mailSettings_sublist :
    ((mailSettings config).map Prod.fst).Sublist ["SMTP_HOST", "SMTP_PORT", "SMTP_FROM",
      "SMTP_STARTTLS", "SMTP_USER", "SMTP_PASSWORD"] := by
  unfold mailSettings
  cases config.mail with
  | none => exact List.nil_sublist _
  | some mail =>
    obtain ⟨host, port, sender, user, passwordSecret, starttls⟩ := mail
    cases user <;> cases passwordSecret <;> simp

theorem settings_sublist :
    ((settings model config).map Prod.fst).Sublist possibleNames := by
  simp only [settings, List.map_append]
  exact (((List.Sublist.refl ((identitySettings model).map Prod.fst)).append
    (adminSettings_sublist config.admin)).append mailSettings_sublist).append
    (List.Sublist.refl ((storageSettings model).map Prod.fst))

end InitJob

theorem workloads_distinct : ∀ entry ∈ workloads model config,
    (entry.2.map Prod.fst).Nodup := by
  have database : ((Database.settings model).map Prod.fst).Nodup := by simp [Database.settings]
  have search : (SearchIndex.settings.map Prod.fst).Nodup := by decide
  have storage : ((ObjectStore.settings config).map Prod.fst).Nodup := by
    simp [ObjectStore.settings]
  have identity : ((IdentityProvider.settings model config).map Prod.fst).Nodup := by
    simp [IdentityProvider.settings]
  have api : ((CatalogApi.settings model config).map Prod.fst).Nodup := by
    rw [CatalogApi.map_fst_settings]
    decide
  have job : InitJob.possibleNames.Nodup := by decide
  simp only [workloads, rosters, List.flatMap_cons, List.flatMap_nil, List.nil_append,
    List.cons_append, List.forall_mem_cons]
  exact ⟨database, List.nodup_singleton _, search, storage, identity, api,
    job.sublist InitJob.settings_sublist, List.forall_mem_nil _⟩

section Composed

variable {set : ResourceSet}

theorem workloads_run (composed : compose model config Generator.all = .ok set) :
    Catalogued set.get? Resource.template? (PodTemplate.Runs model config)
      (workloads model config) :=
  catalogued_of_composed composed rosters_run

theorem exists_setting_of_tells (composed : compose model config Generator.all = .ok set)
    {env : EnvVar} (told : set.Tells env) :
    ∃ entry ∈ workloads model config, ∃ setting, (env.name, setting) ∈ entry.2 ∧
      setting.resolve model config env.name = .ok env := by
  obtain ⟨key, resource, template, found, running, container, member, inside⟩ := told
  obtain ⟨settings, listed, runs⟩ := (workloads_run composed).only found running
  obtain ⟨main, only, realized⟩ := runs.main
  rcases List.mem_append.mp member with waiting | working
  · rw [runs.waiting container waiting] at inside
    cases inside
  · rw [only, List.mem_singleton] at working
    subst working
    exact ⟨(key, settings), listed, realized.exists_setting inside⟩

theorem exists_tells (composed : compose model config Generator.all = .ok set)
    {key : String} {settings : Settings} (listed : (key, settings) ∈ workloads model config)
    {name : String} {setting : Setting} (inside : (name, setting) ∈ settings) :
    ∃ held, setting.resolve model config name = .ok held ∧ set.Tells held := by
  obtain ⟨resource, template, found, running, runs⟩ := (workloads_run composed).all listed
  obtain ⟨container, only, realized⟩ := runs.main
  obtain ⟨held, member, resolved⟩ := exists_related realized inside
  refine ⟨held, resolved, key, resource, template, found, running, container, ?_, member⟩
  rw [only]
  exact List.mem_append_right _ (List.mem_singleton_self container)

theorem envVar?_eq_some (composed : compose model config Generator.all = .ok set)
    {key : String} {settings : Settings} (listed : (key, settings) ∈ workloads model config)
    {name : String} {setting : Setting} (inside : (name, setting) ∈ settings) :
    ∃ held, setting.resolve model config name = .ok held ∧
      set.envVar? key name = some held := by
  obtain ⟨resource, template, found, running, runs⟩ := (workloads_run composed).all listed
  obtain ⟨container, only, realized⟩ := runs.main
  obtain ⟨held, resolved, told⟩ :=
    realized.envVar?_eq_some (workloads_distinct _ listed) inside
  refine ⟨held, resolved, ?_⟩
  have main := Resource.mainContainer?_eq_some running only
  rw [ResourceSet.envVar?, ResourceSet.mainContainer?, found, Option.bind_some, main,
    Option.bind_some, told]

end Composed

end PlatformManifests
