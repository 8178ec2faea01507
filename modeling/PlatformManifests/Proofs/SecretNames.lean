import PlatformManifests.Proofs.Selection

/-!
Where the names of secrets go. They reach the manifests as references of environment variables and
in no other way: under other names for the same secrets, the outcome differs in the references
alone, and no failure depends on them.
-/
namespace PlatformManifests

variable {model : Model} {config : Configuration} {rename : String → String}

/-! ### Other names for the same secrets -/

def Configuration.renameSecrets (rename : String → String) (config : Configuration) :
    Configuration :=
  { config with secrets := config.secrets.map rename }

def EnvSource.renameSecret (rename : String → String) (source : EnvSource) : EnvSource :=
  ⟨⟨rename source.secretKeyRef.name, source.secretKeyRef.key⟩⟩

def EnvVar.renameSecret (rename : String → String) (env : EnvVar) : EnvVar :=
  { env with valueFrom := env.valueFrom.map (EnvSource.renameSecret rename) }

def Container.renameSecrets (rename : String → String) (container : Container) : Container :=
  { container with env := container.env.map (EnvVar.renameSecret rename) }

/-- Other names in the environments of all containers, those that run first included. -/
def PodTemplate.renameSecrets (rename : String → String) (template : PodTemplate) : PodTemplate :=
  { template with
    spec := { template.spec with
      initContainers := template.spec.initContainers.map (Container.renameSecrets rename)
      containers := template.spec.containers.map (Container.renameSecrets rename) } }

def StatefulSet.renameSecrets (rename : String → String) (workload : StatefulSet) : StatefulSet :=
  { workload with template := workload.template.renameSecrets rename }

def Deployment.renameSecrets (rename : String → String) (workload : Deployment) : Deployment :=
  { workload with template := workload.template.renameSecrets rename }

def Job.renameSecrets (rename : String → String) (workload : Job) : Job :=
  { workload with template := workload.template.renameSecrets rename }

namespace Resource

/-- Only workloads have containers, all else stays as it is. -/
def renameSecrets (rename : String → String) : Resource → Resource
  | .statefulSet manifest =>
    .statefulSet { manifest with body := manifest.body.renameSecrets rename }
  | .deployment manifest =>
    .deployment { manifest with body := manifest.body.renameSecrets rename }
  | .job manifest => .job { manifest with body := manifest.body.renameSecrets rename }
  | other => other

@[simp] theorem key_renameSecrets (resource : Resource) :
    (resource.renameSecrets rename).key = resource.key := by
  cases resource <;> rfl

end Resource

def Descriptor.renameSecrets (rename : String → String) (descriptor : Descriptor) : Descriptor :=
  { descriptor with resources := descriptor.resources.map (Resource.renameSecrets rename) }

def OwnedResource.renameSecrets (rename : String → String) (owned : OwnedResource) :
    OwnedResource :=
  { owned with resource := owned.resource.renameSecrets rename }

def ResourceSet.renameSecrets (rename : String → String) (set : ResourceSet) : ResourceSet :=
  ⟨set.entries.map (OwnedResource.renameSecrets rename)⟩

/-! ### Environments -/

theorem Configuration.secretEnv_renameSecrets (name identifier : String) (field : SecretField) :
    (config.renameSecrets rename).secretEnv name identifier field =
      (config.secretEnv name identifier field).map (EnvVar.renameSecret rename) := by
  have named : (config.renameSecrets rename).secretName identifier =
      (config.secretName identifier).map rename := by
    unfold secretName renameSecrets
    rw [Dict.get?_map]
    cases config.secrets.get? identifier <;> rfl
  unfold secretEnv secretVariable secretSource
  rw [named]
  cases config.secretName identifier <;> rfl

/-- One environment under the other names is the other. -/
def Renames (rename : String → String) (plain renamed : Outcome (List EnvVar)) : Prop :=
  renamed = plain.map (List.map (EnvVar.renameSecret rename))

theorem Database.environment_renameSecrets :
    Renames rename (environment model config) (environment model (config.renameSecrets rename)) := by
  refine Outcome.bind_of_map (Configuration.secretEnv_renameSecrets _ _ _) fun password => ?_
  refine Outcome.bind_of_map (Configuration.secretEnv_renameSecrets _ _ _) fun identity => ?_
  refine Outcome.bind_of_map (Configuration.secretEnv_renameSecrets _ _ _) fun application => ?_
  rfl

theorem SearchIndex.environment_renameSecrets (port : UInt16) :
    Renames rename (environment config port) (environment (config.renameSecrets rename) port) := by
  refine Outcome.bind_of_map (Configuration.secretEnv_renameSecrets _ _ _) fun password => ?_
  rfl

theorem ObjectStore.environment_renameSecrets :
    Renames rename (environment config) (environment (config.renameSecrets rename)) := by
  refine Outcome.bind_of_map (Configuration.secretEnv_renameSecrets _ _ _) fun user => ?_
  refine Outcome.bind_of_map (Configuration.secretEnv_renameSecrets _ _ _) fun password => ?_
  rfl

theorem IdentityProvider.environment_renameSecrets (httpPort managementPort databasePort : UInt16) :
    Renames rename (environment model config httpPort managementPort databasePort)
      (environment model (config.renameSecrets rename) httpPort managementPort databasePort) := by
  refine Outcome.bind_of_map (Configuration.secretEnv_renameSecrets _ _ _) fun password => ?_
  refine Outcome.bind_of_map (Configuration.secretEnv_renameSecrets _ _ _) fun adminName => ?_
  refine Outcome.bind_of_map (Configuration.secretEnv_renameSecrets _ _ _) fun adminPassword => ?_
  rfl

namespace CatalogApi

theorem databaseEnvironment_renameSecrets :
    Renames rename (databaseEnvironment model config)
      (databaseEnvironment model (config.renameSecrets rename)) := by
  refine Outcome.bind_of_same fun port => ?_
  refine Outcome.bind_of_map (Configuration.secretEnv_renameSecrets _ _ _) fun password => ?_
  rfl

theorem cacheEnvironment_renameSecrets :
    Renames rename (cacheEnvironment model config)
      (cacheEnvironment model (config.renameSecrets rename)) := by
  refine Outcome.bind_of_same fun port => ?_
  refine Outcome.bind_of_map (Configuration.secretEnv_renameSecrets _ _ _) fun password => ?_
  rfl

theorem searchEnvironment_renameSecrets :
    Renames rename (searchEnvironment model config)
      (searchEnvironment model (config.renameSecrets rename)) := by
  refine Outcome.bind_of_same fun port => ?_
  refine Outcome.bind_of_map (Configuration.secretEnv_renameSecrets _ _ _) fun password => ?_
  rfl

theorem storageEnvironment_renameSecrets :
    Renames rename (storageEnvironment model config)
      (storageEnvironment model (config.renameSecrets rename)) := by
  refine Outcome.bind_of_same fun port => ?_
  refine Outcome.bind_of_map (Configuration.secretEnv_renameSecrets _ _ _) fun user => ?_
  refine Outcome.bind_of_map (Configuration.secretEnv_renameSecrets _ _ _) fun password => ?_
  rfl

theorem identityEnvironment_renameSecrets :
    Renames rename (identityEnvironment model config)
      (identityEnvironment model (config.renameSecrets rename)) := by
  refine Outcome.bind_of_same fun url => ?_
  refine Outcome.bind_of_same fun client => ?_
  refine Outcome.bind_of_map (Configuration.secretEnv_renameSecrets _ _ _) fun secret => ?_
  rfl

theorem environment_renameSecrets :
    Renames rename (environment model config)
      (environment model (config.renameSecrets rename)) := by
  refine Outcome.bind_of_map databaseEnvironment_renameSecrets fun database => ?_
  refine Outcome.bind_of_map cacheEnvironment_renameSecrets fun cache => ?_
  refine Outcome.bind_of_map searchEnvironment_renameSecrets fun search => ?_
  refine Outcome.bind_of_map storageEnvironment_renameSecrets fun storage => ?_
  refine Outcome.bind_of_map identityEnvironment_renameSecrets fun identity => ?_
  refine Outcome.bind_of_same fun events => ?_
  simp only [Except.map, List.map_append]
  rfl

end CatalogApi

namespace InitJob

theorem identityEnvironment_renameSecrets :
    Renames rename (identityEnvironment model config)
      (identityEnvironment model (config.renameSecrets rename)) := by
  refine Outcome.bind_of_same fun url => ?_
  refine Outcome.bind_of_map (Configuration.secretEnv_renameSecrets _ _ _) fun user => ?_
  refine Outcome.bind_of_map (Configuration.secretEnv_renameSecrets _ _ _) fun password => ?_
  refine Outcome.bind_of_same fun apiClient => ?_
  refine Outcome.bind_of_map (Configuration.secretEnv_renameSecrets _ _ _) fun secret => ?_
  refine Outcome.bind_of_same fun webClient => ?_
  rfl

theorem adminEnvironment_renameSecrets (admin : Contact) :
    (adminEnvironment admin).map (EnvVar.renameSecret rename) = adminEnvironment admin := by
  unfold adminEnvironment
  cases admin.name <;> rfl

theorem mailEnvironment_renameSecrets :
    Renames rename (mailEnvironment config) (mailEnvironment (config.renameSecrets rename)) := by
  have relay : (config.renameSecrets rename).mail = config.mail := rfl
  unfold mailEnvironment
  rw [relay]
  cases config.mail with
  | none => rfl
  | some mail =>
    obtain ⟨host, port, sender, user, passwordSecret, starttls⟩ := mail
    cases passwordSecret with
    | none => cases user <;> rfl
    | some identifier =>
      have password : ((config.renameSecrets rename).secretEnv "SMTP_PASSWORD" identifier
            .password).map (fun password => [password]) =
          ((config.secretEnv "SMTP_PASSWORD" identifier .password).map
            (fun password => [password])).map (List.map (EnvVar.renameSecret rename)) := by
        rw [Configuration.secretEnv_renameSecrets]
        cases config.secretEnv "SMTP_PASSWORD" identifier .password <;> rfl
      refine Outcome.bind_of_map password fun held => ?_
      cases user <;> rfl

theorem storageEnvironment_renameSecrets :
    Renames rename (storageEnvironment model config)
      (storageEnvironment model (config.renameSecrets rename)) := by
  refine Outcome.bind_of_same fun port => ?_
  refine Outcome.bind_of_map (Configuration.secretEnv_renameSecrets _ _ _) fun user => ?_
  refine Outcome.bind_of_map (Configuration.secretEnv_renameSecrets _ _ _) fun password => ?_
  rfl

theorem environment_renameSecrets :
    Renames rename (environment model config)
      (environment model (config.renameSecrets rename)) := by
  refine Outcome.bind_of_map identityEnvironment_renameSecrets fun identity => ?_
  refine Outcome.bind_of_map mailEnvironment_renameSecrets fun mail => ?_
  refine Outcome.bind_of_map storageEnvironment_renameSecrets fun storage => ?_
  simp only [Except.map, List.map_append, adminEnvironment_renameSecrets]
  rfl

end InitJob

/-! ### Descriptors -/

namespace Descriptor

theorem addAll_renameSecrets (component : String) (held : Dict Resource)
    (resources : List Resource) :
    addAll component (held.map (Resource.renameSecrets rename))
        (resources.map (Resource.renameSecrets rename)) =
      (addAll component held resources).map (Dict.map (Resource.renameSecrets rename)) := by
  induction resources generalizing held with
  | nil => rfl
  | cons first rest ih =>
    simp only [List.map_cons, addAll, Resource.key_renameSecrets, Dict.contains_map,
      ← Dict.map_insert, ih]
    split <;> rfl

theorem ofResources_renameSecrets {component : String} {resources renamed : List Resource}
    (same : renamed = resources.map (Resource.renameSecrets rename)) :
    ofResources component renamed =
      (ofResources component resources).map (renameSecrets rename) := by
  have added := @addAll_renameSecrets rename component ∅ resources
  have empty : (∅ : Dict Resource).map (Resource.renameSecrets rename) = ∅ := rfl
  rw [same, ofResources, ← empty, added, ofResources]
  cases addAll component ∅ resources <;> rfl

end Descriptor

theorem Owner.route_renameSecrets (owner : Owner) (name : String) (annotations : Dict String)
    (host : String) (rules : List PathRule) :
    owner.route model (config.renameSecrets rename) name annotations host rules =
      (owner.route model config name annotations host rules).map
        (Resource.renameSecrets rename) := by
  exact Outcome.bind_of_same fun route => rfl

/-- The generator makes the same for other names, but for the names themselves. -/
def Generator.Oblivious (generator : Generator) : Prop :=
  ∀ model config rename, generator.generate model (config.renameSecrets rename) =
    (generator.generate model config).map (Descriptor.renameSecrets rename)

theorem Database.generator_oblivious : generator.Oblivious := by
  intro model config rename
  refine Outcome.bind_of_same fun port => ?_
  refine Outcome.bind_of_map environment_renameSecrets fun env => ?_
  refine Outcome.bind_of_same fun check => ?_
  refine Outcome.bind_of_same fun image => ?_
  refine Outcome.bind_of_same fun size => ?_
  exact Descriptor.ofResources_renameSecrets rfl

theorem Cache.generator_oblivious : generator.Oblivious := by
  intro model config rename
  refine Outcome.bind_of_same fun port => ?_
  refine Outcome.bind_of_same fun image => ?_
  refine Outcome.bind_of_map (Configuration.secretEnv_renameSecrets _ _ _) fun password => ?_
  exact Descriptor.ofResources_renameSecrets rfl

theorem SearchIndex.generator_oblivious : generator.Oblivious := by
  intro model config rename
  refine Outcome.bind_of_same fun port => ?_
  refine Outcome.bind_of_map (environment_renameSecrets port) fun env => ?_
  refine Outcome.bind_of_same fun image => ?_
  refine Outcome.bind_of_map (Owner.route_renameSecrets _ _ _ _ _) fun route => ?_
  refine Outcome.bind_of_same fun size => ?_
  exact Descriptor.ofResources_renameSecrets rfl

theorem ObjectStore.generator_oblivious : generator.Oblivious := by
  intro model config rename
  refine Outcome.bind_of_same fun apiPort => ?_
  refine Outcome.bind_of_same fun consolePort => ?_
  refine Outcome.bind_of_map environment_renameSecrets fun env => ?_
  refine Outcome.bind_of_same fun image => ?_
  refine Outcome.bind_of_map (Owner.route_renameSecrets _ _ _ _ _) fun api => ?_
  refine Outcome.bind_of_map (Owner.route_renameSecrets _ _ _ _ _) fun console => ?_
  refine Outcome.bind_of_same fun size => ?_
  exact Descriptor.ofResources_renameSecrets rfl

/-- A step that waits reads no secret. -/
theorem map_initContainers_renameSecrets (steps : List WaitStep) :
    (initContainers steps).map (Container.renameSecrets rename) = initContainers steps := by
  rw [initContainers, List.map_map]
  rfl

theorem Owner.podTemplate_renameSecrets {owner : Owner} {pod : PodSpec} {steps : List WaitStep}
    (first : pod.initContainers = initContainers steps) :
    (owner.podTemplate pod).renameSecrets rename = owner.podTemplate
      { pod with containers := pod.containers.map (Container.renameSecrets rename) } := by
  simp only [podTemplate, PodTemplate.renameSecrets, first, map_initContainers_renameSecrets]

theorem IdentityProvider.generator_oblivious : generator.Oblivious := by
  intro model config rename
  refine Outcome.bind_of_same fun httpPort => ?_
  refine Outcome.bind_of_same fun managementPort => ?_
  refine Outcome.bind_of_same fun databasePort => ?_
  refine Outcome.bind_of_map (environment_renameSecrets _ _ _) fun env => ?_
  refine Outcome.bind_of_same fun image => ?_
  refine Outcome.bind_of_same fun check => ?_
  refine Outcome.bind_of_same fun database => ?_
  refine Outcome.bind_of_map (Owner.route_renameSecrets _ _ _ _ _) fun route => ?_
  refine Outcome.bind_of_same fun replicas => ?_
  exact Descriptor.ofResources_renameSecrets rfl

theorem CatalogApi.container_renameSecrets (image : String) (port : UInt16)
    (env : List EnvVar) :
    container image port (env.map (EnvVar.renameSecret rename)) =
      (container image port env).renameSecrets rename := by
  simp only [container, Container.renameSecrets, Container.withEnv, Container.withPort,
    Container.withReadiness, List.map_append]
  rfl

theorem CatalogApi.generator_oblivious : generator.Oblivious := by
  intro model config rename
  refine Outcome.bind_of_same fun port => ?_
  refine Outcome.bind_of_same fun waitImage => ?_
  refine Outcome.bind_of_same fun steps => ?_
  refine Outcome.bind_of_same fun image => ?_
  refine Outcome.bind_of_map environment_renameSecrets fun env => ?_
  refine Outcome.bind_of_same fun replicas => ?_
  refine Descriptor.ofResources_renameSecrets ?_
  have template : (owner.podTemplate (pod steps (container image port env))).renameSecrets rename =
      owner.podTemplate (pod steps ((container image port env).renameSecrets rename)) :=
    Owner.podTemplate_renameSecrets rfl
  rw [container_renameSecrets, Owner.deployment, ← template]
  rfl

theorem IngressRouter.certificates_renameSecrets :
    certificates (config.renameSecrets rename) =
      (certificates config).map (Resource.renameSecrets rename) := by
  change (if config.scheme.isTls then _ else _) = _
  unfold certificates
  split <;> rfl

theorem IngressRouter.generator_oblivious : generator.Oblivious := by
  intro model config rename
  refine Outcome.bind_of_same fun rules => ?_
  refine Outcome.bind_of_map (Owner.route_renameSecrets _ _ _ _ _) fun route => ?_
  exact Descriptor.ofResources_renameSecrets (congrArg _ certificates_renameSecrets)

theorem InitJob.generator_oblivious : generator.Oblivious := by
  intro model config rename
  refine Outcome.bind_of_same fun steps => ?_
  refine Outcome.bind_of_same fun image => ?_
  refine Outcome.bind_of_map environment_renameSecrets fun env => ?_
  refine Outcome.bind_of_same fun role => ?_
  refine Descriptor.ofResources_renameSecrets ?_
  have container : (Container.ofImage name image).withEnv (env.map (EnvVar.renameSecret rename)) =
      ((Container.ofImage name image).withEnv env).renameSecrets rename := rfl
  have template : (owner.podTemplate
        (pod steps ((Container.ofImage name image).withEnv env))).renameSecrets rename =
      owner.podTemplate (pod steps
        (((Container.ofImage name image).withEnv env).renameSecrets rename)) :=
    Owner.podTemplate_renameSecrets rfl
  rw [container, ← template]
  rfl

theorem all_oblivious : ∀ generator ∈ Generator.all, generator.Oblivious := by
  simp only [Generator.all, List.forall_mem_cons]
  exact ⟨Database.generator_oblivious, Cache.generator_oblivious, SearchIndex.generator_oblivious,
    ObjectStore.generator_oblivious, IdentityProvider.generator_oblivious,
    CatalogApi.generator_oblivious, IngressRouter.generator_oblivious,
    InitJob.generator_oblivious, List.forall_mem_nil _⟩

/-! ### Composition -/

namespace ResourceSet

theorem clash?_renameSecrets (set : ResourceSet) (descriptor : Descriptor) :
    (set.renameSecrets rename).clash? (descriptor.renameSecrets rename) =
      set.clash? descriptor := by
  simp only [clash?, renameSecrets, Descriptor.renameSecrets, Dict.keys_map, Dict.get?_map,
    Option.map_map]
  rfl

theorem addAll_renameSecrets (component : String) (entries : Dict OwnedResource)
    (resources : List (String × Resource)) :
    addAll component (entries.map (OwnedResource.renameSecrets rename))
        (resources.map fun entry => (entry.1, entry.2.renameSecrets rename)) =
      (addAll component entries resources).map (OwnedResource.renameSecrets rename) := by
  induction resources generalizing entries with
  | nil => rfl
  | cons head rest ih =>
    rw [List.map_cons, addAll, List.foldl_cons]
    have next := ih (entries.insert head.1 ⟨component, head.2⟩)
    rw [Dict.map_insert] at next
    exact next

theorem merge_renameSecrets (set : ResourceSet) (descriptor : Descriptor) :
    (set.renameSecrets rename).merge (descriptor.renameSecrets rename) =
      ((set.merge descriptor).1, (set.merge descriptor).2.renameSecrets rename) := by
  rw [merge_eq, merge_eq, clash?_renameSecrets]
  cases set.clash? descriptor with
  | some clash => rfl
  | none =>
    have added := @addAll_renameSecrets rename descriptor.component set.entries
      descriptor.resources.entries
    exact congrArg (fun entries => ((.ok () : Outcome Unit), ResourceSet.mk entries)) added

end ResourceSet

theorem addComponent_renameSecrets {generator : Generator} (oblivious : generator.Oblivious)
    (set : ResourceSet) :
    addComponent model (config.renameSecrets rename) (set.renameSecrets rename) generator =
      (addComponent model config set generator).map (ResourceSet.renameSecrets rename) := by
  have renamed := oblivious model config rename
  cases made : generator.generate model config with
  | error cause =>
    rw [made] at renamed
    rw [addComponent, Generator.run, renamed, addComponent, Generator.run, made]
    rfl
  | ok descriptor =>
    rw [made] at renamed
    rw [addComponent_of_made renamed, addComponent_of_made made, set.merge_renameSecrets]
    cases (set.merge descriptor).1 <;> rfl

/-- The sets built so far differ in the names alone. -/
theorem foldlM_addComponent_renameSecrets {generators : List Generator}
    (oblivious : ∀ generator ∈ generators, generator.Oblivious) (set : ResourceSet) :
    generators.foldlM (addComponent model (config.renameSecrets rename))
        (set.renameSecrets rename) =
      (generators.foldlM (addComponent model config) set).map
        (ResourceSet.renameSecrets rename) := by
  induction generators generalizing set with
  | nil => rfl
  | cons generator rest ih =>
    obtain ⟨here, later⟩ := List.forall_mem_cons.mp oblivious
    rw [List.foldlM_cons, List.foldlM_cons]
    exact Outcome.bind_of_map (addComponent_renameSecrets here set) fun next => ih later next

/-- Under other names for the same secrets, components chosen by name compose to the same set with
the other names in the references, or fail in the same way. -/
theorem compose_selected_renameSecrets (names : List String)
    (builtIn : ∀ name ∈ names, name ∈ Generator.names) (valid : config.validate = .ok ())
    (renamedValid : (config.renameSecrets rename).validate = .ok ()) :
    ∃ generators, Generator.select names = .ok generators ∧
      compose model (config.renameSecrets rename) generators =
        (compose model config generators).map (ResourceSet.renameSecrets rename) := by
  refine ⟨_, select_eq_ok builtIn, ?_⟩
  unfold compose
  rw [valid, renamedValid]
  refine Outcome.bind_of_same fun _ => Outcome.bind_of_same fun _ => ?_
  refine foldlM_addComponent_renameSecrets (fun generator member => ?_) ∅
  exact all_oblivious generator (List.mem_filter.mp member).1

theorem compose_demonstration_renamed :
    ∃ generators, Generator.select ["init-job", "cache"] = .ok generators ∧
      compose Model.standard (Configuration.demonstration.renameSecrets ("next-" ++ ·))
          generators =
        (compose Model.standard Configuration.demonstration generators).map
          (ResourceSet.renameSecrets ("next-" ++ ·)) :=
  compose_selected_renameSecrets ["init-job", "cache"] (by decide +kernel) (by decide +kernel)
    (by decide +kernel)

end PlatformManifests
