import PlatformManifests.Component.Selection
import PlatformManifests.Model.Standard
import PlatformManifests.Proofs.Generation
import PlatformManifests.Proofs.Network
import PlatformManifests.Proofs.Validation

/-!
The wiring of the platform. Whatever ports the model assigns, what the components expect of each
other and what they offer comes from the same entries of the model.
-/
namespace PlatformManifests

variable {model : Model} {config : Configuration} {descriptor : Descriptor}

/-! ### Labels -/

namespace Owner

theorem get?_selector_name (owner : Owner) :
    owner.selector.get? Label.name = some owner.service := by
  have differ : Label.name ≠ Label.component := by decide
  simp [selector, Label.selector, Dict.ofList, differ]

theorem get?_selector_component (owner : Owner) :
    owner.selector.get? Label.component = some owner.component := by
  simp [selector, Label.selector, Dict.ofList]

theorem get?_selector_partOf (owner : Owner) : owner.selector.get? Label.partOf = none := by
  have notName : Label.partOf ≠ Label.name := by decide
  have notComponent : Label.partOf ≠ Label.component := by decide
  simp [selector, Label.selector, Dict.ofList, notName, notComponent]

/-- Besides what is selected, pods are labelled as part of the platform. -/
theorem bears_own (owner : Owner) (pod : PodSpec) :
    (owner.podTemplate pod).Bears owner.selector := by
  intro label value asked
  have other : label ≠ Label.partOf := by
    rintro rfl
    rw [get?_selector_partOf] at asked
    cases asked
  rw [podTemplate, Dict.get?_insert, if_neg other, asked]

theorem eq_of_bears {owner other : Owner} {pod : PodSpec}
    (bears : (other.podTemplate pod).Bears owner.selector) : owner = other := by
  have notName : Label.name ≠ Label.partOf := by decide
  have notComponent : Label.component ≠ Label.partOf := by decide
  have services := bears Label.name owner.service owner.get?_selector_name
  have components := bears Label.component owner.component owner.get?_selector_component
  rw [podTemplate, Dict.get?_insert, if_neg notName, get?_selector_name] at services
  rw [podTemplate, Dict.get?_insert, if_neg notComponent, get?_selector_component] at components
  cases owner
  cases other
  cases services
  cases components
  rfl

theorem selects_own {owner : Owner} {service : Service} (same : service.selector = owner.selector)
    (pod : PodSpec) : service.Selects (owner.podTemplate pod) := by
  have bears := owner.bears_own pod
  rw [← same] at bears
  exact bears

/-- A service selects the pods of its own component only. -/
theorem eq_of_selects {owner other : Owner} {service : Service} {pod : PodSpec}
    (same : service.selector = owner.selector)
    (selects : service.Selects (other.podTemplate pod)) : owner = other := by
  have bears : (other.podTemplate pod).Bears service.selector := selects
  rw [same] at bears
  exact eq_of_bears bears

end Owner

/-! ### Ports on offer -/

/-- The services that listen, each with the keys of its ports. -/
def listeners : List (String × List String) :=
  [(Database.service, [PortKey.postgres]), (Cache.service, [PortKey.redis]),
    (SearchIndex.service, [PortKey.elasticsearch]),
    (ObjectStore.service, [PortKey.minioApi, PortKey.minioConsole]),
    (IdentityProvider.service, [PortKey.keycloakHttp, PortKey.keycloakManagement]),
    (CatalogApi.service, [PortKey.catalogApi])]

def portKeys (service : String) : List String := (listeners.lookup service).getD []

/-- The service of the name is there, and the model has the port for it. -/
def Listens (model : Model) (endpoint : Endpoint) : Prop :=
  ∃ key ∈ portKeys endpoint.host, ∃ port, model.port key = .ok port ∧ port.toNat = endpoint.port

theorem listens_of_port {host key : String} {port : UInt16} (listed : key ∈ portKeys host)
    (found : model.port key = .ok port) : Listens model ⟨host, port.toNat⟩ :=
  ⟨key, listed, port, found, rfl⟩

/-! ### Environments and wait steps -/

namespace EnvVar

/-- If the variable has one of the names of addresses, then it holds the address of a listener. -/
structure Sound (model : Model) (env : EnvVar) : Prop where
  address : env.name ∈ addressVariables → ∃ value endpoint, env.value = some value ∧
    Endpoint.ofAddress? value = some endpoint ∧ Listens model endpoint
  host : env.name = "DATABASE_HOST" → env.value = some Database.service
  port : env.name = "DATABASE_PORT" →
    ∃ port, model.port PortKey.postgres = .ok port ∧ env.value = some (toString port)

def networkVariables : List String := addressVariables ++ ["DATABASE_HOST", "DATABASE_PORT"]

theorem sound_of_other {env : EnvVar} (other : env.name ∉ networkVariables) : env.Sound model := by
  simp only [networkVariables, List.mem_append, List.mem_cons, List.not_mem_nil, or_false,
    not_or] at other
  exact ⟨fun named => absurd named other.1, fun named => absurd named other.2.1,
    fun named => absurd named other.2.2⟩

theorem sound_literal {name value : String} (other : name ∉ networkVariables) :
    (literal name value).Sound model :=
  sound_of_other other

theorem sound_ofSource {name : String} {source : EnvSource} (other : name ∉ networkVariables) :
    (ofSource name source).Sound model :=
  sound_of_other other

theorem sound_of_names {env : List EnvVar} (names : List String)
    (same : env.map EnvVar.name = names) (other : ∀ name ∈ names, name ∉ networkVariables) :
    ∀ held ∈ env, held.Sound model := by
  intro held member
  exact sound_of_other (other _ (same ▸ List.mem_map_of_mem member))

theorem sound_address {name value : String} {endpoint : Endpoint}
    (named : name ≠ "DATABASE_HOST" ∧ name ≠ "DATABASE_PORT")
    (read : Endpoint.ofAddress? value = some endpoint) (listens : Listens model endpoint) :
    (literal name value).Sound model :=
  ⟨fun _ => ⟨value, endpoint, rfl, read, listens⟩, fun same => absurd same named.1,
    fun same => absurd same named.2⟩

end EnvVar

theorem Container.wired_of_sound {container : Container}
    (sound : ∀ env ∈ container.env, env.Sound model)
    (probes : ∀ probe ∈ container.probes, ∀ port ∈ probe.ports,
      port ∈ container.ports.map ContainerPort.containerPort) :
    container.Wired (Listens model) := by
  refine ⟨fun env member => (sound env member).address, ?_, probes⟩
  intro host inHost port inPort hostNamed portNamed
  obtain ⟨number, found, written⟩ := (sound port inPort).port portNamed
  exact ⟨_, _, _, (sound host inHost).host hostNamed, written, Endpoint.ofTexts?_port _ number,
    listens_of_port (by decide) found⟩

/-- The attempt of the step goes to a listener. -/
def WaitStep.Sound (model : Model) (step : WaitStep) : Prop :=
  ∃ endpoint, Endpoint.ofCommand? step.command = some endpoint ∧ Listens model endpoint

theorem WaitStep.wired_container (known : Endpoint → Prop) (step : WaitStep) :
    step.container.Wired known := by
  refine ⟨?_, ?_, ?_⟩
  · intro env held
    cases held
  · intro host held
    cases held
  · intro probe held
    cases held

/-! ### Components -/

/-- The resources of the descriptor are wired, and offer the ports that are listed. -/
def Owner.Wires (owner : Owner) (model : Model) (descriptor : Descriptor) : Prop :=
  ∃ pod ports resources, descriptor.Lists resources ∧
    Segment (Listens model) owner pod ports resources ∧
    List.Forall₂ (fun key port => model.port key = .ok port.port) (portKeys owner.service) ports

/-- The container port that a port of a service passes connections on to. -/
def ServicePort.exposed (port : ServicePort) : ContainerPort :=
  ⟨some port.targetPort, port.port, some "TCP"⟩

/-- The pods of an owner: one container after the steps that wait, with the ports of the service.
The ports are those of the model for the service. -/
structure Deployed (model : Model) (owner : Owner) (pod : PodSpec) (ports : List ServicePort)
    (steps : List WaitStep) (container : Container) : Prop where
  keyed : List.Forall₂ (fun key port => model.port key = .ok port.port)
    (portKeys owner.service) ports
  first : pod.initContainers = initContainers steps
  only : pod.containers = [container]
  exposed : container.ports = ports.map ServicePort.exposed
  waits : ∀ step ∈ steps, step.Sound model
  environment : ∀ env ∈ container.env, env.Sound model
  probes : ∀ probe ∈ container.probes, ∀ port ∈ probe.ports, port ∈ ports.map ServicePort.port

namespace Deployed

variable {owner : Owner} {pod : PodSpec} {ports : List ServicePort} {steps : List WaitStep}
  {container : Container}

theorem wired (deployed : Deployed model owner pod ports steps container) :
    (owner.podTemplate pod).Wired (Listens model) := by
  have numbers : container.ports.map ContainerPort.containerPort = ports.map ServicePort.port := by
    rw [deployed.exposed, List.map_map]
    rfl
  constructor
  · intro waiting member
    rw [Owner.podTemplate, deployed.first] at member
    obtain ⟨step, inside, rfl⟩ := List.mem_map.mp member
    obtain ⟨endpoint, read, listens⟩ := deployed.waits step inside
    exact ⟨step.command, endpoint, rfl, read, listens⟩
  · rw [Owner.podTemplate, deployed.first, deployed.only, List.forall_mem_append,
      List.forall_mem_singleton]
    refine ⟨fun waiting member => ?_, Container.wired_of_sound deployed.environment ?_⟩
    · obtain ⟨step, _, rfl⟩ := List.mem_map.mp member
      exact step.wired_container _
    · rw [numbers]
      exact deployed.probes

theorem exposes (deployed : Deployed model owner pod ports steps container)
    (modelValid : model.validate = .ok ()) :
    ∀ port ∈ ports, port.port ≠ 0 ∧ (owner.podTemplate pod).Exposes port := by
  intro port member
  obtain ⟨key, _, found⟩ := exists_related deployed.keyed.flip member
  refine ⟨Model.port_ne_zero modelValid found, container, ?_, port.exposed, ?_, rfl, rfl⟩
  · rw [Owner.podTemplate, deployed.only]
    exact List.mem_cons_self
  · rw [deployed.exposed]
    exact List.mem_map_of_mem member

/-- The workload comes first, then its service, and then what neither runs nor is reached. -/
theorem wires (deployed : Deployed model owner pod ports steps container)
    (modelValid : model.validate = .ok ()) {component : String} {workload : Resource}
    {others : List Resource}
    (listed : Descriptor.ofResources component
      (workload :: owner.internalService config ports :: others) = .ok descriptor)
    (running : workload.template? = some (owner.podTemplate pod))
    (main : Part (Listens model) owner pod ports workload)
    (rest : ∀ other ∈ others, Part (Listens model) owner pod ports other) :
    owner.Wires model descriptor := by
  have lists := (Descriptor.ofResources_eq_ok.mp listed).2.2
  have parts := List.forall_mem_cons.mpr ⟨main,
    List.forall_mem_cons.mpr ⟨Part.internalService config, rest⟩⟩
  refine ⟨pod, ports, _, lists,
    ⟨parts, deployed.wired, deployed.exposes modelValid, fun _ => ?_, fun _ => ?_⟩, deployed.keyed⟩
  · exact ⟨workload, List.mem_cons_self, running⟩
  · exact ⟨_, List.mem_cons_of_mem _ List.mem_cons_self, _, rfl, rfl⟩

end Deployed

namespace Database

theorem readiness_eq_ok {host : String} {check : ReadinessCheck} :
    readiness model host = .ok check ↔ ∃ port, model.port PortKey.postgres = .ok port ∧
      .exec ["pg_isready", "-h", host, "-p", toString port, "-U", model.database.superuser.user,
        "-d", model.database.superuser.database] = check := by
  simp [readiness]

theorem environment_names {env : List EnvVar} (made : environment model config = .ok env) :
    env.map EnvVar.name = ["POSTGRES_USER", "POSTGRES_DB", "POSTGRES_PASSWORD", "PGDATA",
      "IDENTITY_DB_USER", "IDENTITY_DB_NAME", "IDENTITY_DB_PASSWORD", "APP_DB_USER",
      "APP_DB_NAME", "APP_DB_PASSWORD"] := by
  simp only [environment, Outcome.bind_eq_ok, Configuration.secretEnv_eq_ok,
    Except.ok.injEq] at made
  obtain ⟨_, ⟨_, _, rfl⟩, _, ⟨_, _, rfl⟩, _, ⟨_, _, rfl⟩, rfl⟩ := made
  rfl

theorem ports_probe {host : String} {check : ReadinessCheck}
    (made : readiness model host = .ok check) (timing : ProbeTiming) :
    (check.probe timing).ports = [] := by
  obtain ⟨_, _, rfl⟩ := readiness_eq_ok.mp made
  rfl

theorem sound_waitStep {step : WaitStep} (made : waitStep model = .ok step) :
    step.Sound model := by
  simp only [waitStep, Outcome.bind_eq_ok, readiness_eq_ok, Except.ok.injEq] at made
  obtain ⟨_, ⟨port, found, rfl⟩, image, _, rfl⟩ := made
  exact ⟨_, Endpoint.ofCommand?_exec rfl (by decide), listens_of_port (by decide) found⟩

theorem wires (modelValid : model.validate = .ok ())
    (made : generate model config = .ok descriptor) : owner.Wires model descriptor := by
  obtain ⟨port, env, check, image, size, found, envs, checks, _, _, listed⟩ := generate_ok made
  have deployed : Deployed model owner (pod (container image port check env))
      [.tcp "postgres" port] [] (container image port check env) := by
    refine ⟨.cons found .nil, rfl, rfl, rfl, List.forall_mem_nil _, ?_, ?_⟩
    · exact EnvVar.sound_of_names _ (environment_names envs) (by decide)
    · refine List.forall_mem_cons.mpr ⟨?_, List.forall_mem_singleton.mpr ?_⟩ <;>
        simp [ports_probe checks]
  refine deployed.wires modelValid listed rfl (.statefulSet config) ?_
  simp only [List.forall_mem_cons]
  exact ⟨.inert rfl rfl rfl, .inert rfl rfl rfl, List.forall_mem_nil _⟩

end Database

namespace Cache

theorem wires (modelValid : model.validate = .ok ())
    (made : generate model config = .ok descriptor) : owner.Wires model descriptor := by
  obtain ⟨port, image, password, found, _, held, listed⟩ := generate_ok made
  have deployed : Deployed model owner (pod (container image port password)) [.tcp "redis" port] []
      (container image port password) := by
    refine ⟨.cons found .nil, rfl, rfl, rfl, List.forall_mem_nil _, ?_, ?_⟩
    · exact EnvVar.sound_of_names ["REDIS_PASSWORD"]
        (congrArg (fun name => [name]) (Configuration.secretEnv_name held)) (by decide)
    · exact List.forall_mem_singleton.mpr (List.forall_mem_singleton.mpr List.mem_cons_self)
  exact deployed.wires modelValid listed rfl (.statefulSet config) (List.forall_mem_nil _)

end Cache

namespace SearchIndex

theorem environment_names {port : UInt16} {env : List EnvVar}
    (made : environment config port = .ok env) :
    env.map EnvVar.name = ["discovery.type", "http.port", "xpack.security.enabled",
      "xpack.security.http.ssl.enabled", "ES_JAVA_OPTS", "ELASTIC_PASSWORD"] := by
  simp only [environment, Outcome.bind_eq_ok, Configuration.secretEnv_eq_ok,
    Except.ok.injEq] at made
  obtain ⟨_, ⟨_, _, rfl⟩, rfl⟩ := made
  rfl

theorem wires (modelValid : model.validate = .ok ())
    (made : generate model config = .ok descriptor) : owner.Wires model descriptor := by
  obtain ⟨port, env, image, size, found, envs, _, _, listed⟩ := generate_ok made
  have deployed : Deployed model owner (pod (container image port env)) [.tcp "http" port] []
      (container image port env) := by
    refine ⟨.cons found .nil, rfl, rfl, rfl, List.forall_mem_nil _, ?_, ?_⟩
    · exact EnvVar.sound_of_names _ (environment_names envs) (by decide)
    · exact List.forall_mem_singleton.mpr (List.forall_mem_singleton.mpr List.mem_cons_self)
  have here : Listens model ⟨service, port.toNat⟩ := listens_of_port (by decide) found
  refine deployed.wires modelValid listed rfl (.statefulSet config) ?_
  simp only [List.forall_mem_cons]
  exact ⟨.inert rfl rfl rfl, .routed (List.forall_mem_singleton.mpr here), List.forall_mem_nil _⟩

end SearchIndex

namespace ObjectStore

theorem environment_names {env : List EnvVar} (made : environment config = .ok env) :
    env.map EnvVar.name = ["MINIO_ROOT_USER", "MINIO_ROOT_PASSWORD", "MINIO_SERVER_URL",
      "MINIO_BROWSER_REDIRECT_URL"] := by
  simp only [environment, Outcome.bind_eq_ok, Configuration.secretEnv_eq_ok,
    Except.ok.injEq] at made
  obtain ⟨_, ⟨_, _, rfl⟩, _, ⟨_, _, rfl⟩, rfl⟩ := made
  rfl

theorem wires (modelValid : model.validate = .ok ())
    (made : generate model config = .ok descriptor) : owner.Wires model descriptor := by
  obtain ⟨apiPort, consolePort, env, image, size, apiFound, consoleFound, envs, _, _, listed⟩ :=
    generate_ok made
  have deployed : Deployed model owner (pod (container image apiPort consolePort env))
      [.tcp "api" apiPort, .tcp "console" consolePort] []
      (container image apiPort consolePort env) := by
    refine ⟨.cons apiFound (.cons consoleFound .nil), rfl, rfl, rfl, List.forall_mem_nil _, ?_, ?_⟩
    · exact EnvVar.sound_of_names _ (environment_names envs) (by decide)
    · exact List.forall_mem_singleton.mpr (List.forall_mem_singleton.mpr List.mem_cons_self)
  have api : Listens model ⟨service, apiPort.toNat⟩ := listens_of_port (by decide) apiFound
  have console : Listens model ⟨service, consolePort.toNat⟩ :=
    listens_of_port (by decide) consoleFound
  refine deployed.wires modelValid listed rfl (.statefulSet config) ?_
  simp only [List.forall_mem_cons]
  exact ⟨.inert rfl rfl rfl, .routed (List.forall_mem_singleton.mpr api),
    .routed (List.forall_mem_singleton.mpr console), List.forall_mem_nil _⟩

end ObjectStore

namespace IdentityProvider

theorem healthCheck_eq_ok {check : ReadinessCheck} :
    healthCheck model = .ok check ↔ ∃ port, model.port PortKey.keycloakManagement = .ok port ∧
      .http service port healthPath = check := by
  simp [healthCheck]

theorem internalUrl_eq_ok {url : String} :
    internalUrl model = .ok url ↔ ∃ port, model.port PortKey.keycloakHttp = .ok port ∧
      "http://" ++ service ++ ":" ++ toString port = url := by
  simp [internalUrl]

theorem sound_healthStep {check : ReadinessCheck} (made : healthCheck model = .ok check)
    (image : String) : (WaitStep.ofCheck service check image).Sound model := by
  obtain ⟨port, found, rfl⟩ := healthCheck_eq_ok.mp made
  have here : Listens model ⟨service, port.toNat⟩ := listens_of_port (by decide) found
  exact ⟨_, Endpoint.ofCommand?_http rfl (by decide) (by decide), here⟩

theorem ofAddress?_databaseUrl (port : UInt16) (database : String) :
    Endpoint.ofAddress? (databaseUrl port database) = some ⟨Database.service, port.toNat⟩ := by
  have separated : ("/" ++ database).toList.takeWhile (· ≠ '/') = [] := by
    simp [String.toList_append]
  have opened : Endpoint.afterScheme? "jdbc:postgresql://".toList = some [] := by decide
  have plain : Endpoint.PlainHost Database.service := by decide
  have read := @Endpoint.ofAddress?_eq_some _ _ _ port opened plain separated
  rw [← String.append_assoc] at read
  exact read

theorem sound_environment {httpPort managementPort databasePort : UInt16} {env : List EnvVar}
    (found : model.port PortKey.postgres = .ok databasePort)
    (made : environment model config httpPort managementPort databasePort = .ok env) :
    ∀ held ∈ env, held.Sound model := by
  simp only [environment, Outcome.bind_eq_ok, Configuration.secretEnv_eq_ok,
    Except.ok.injEq] at made
  obtain ⟨_, ⟨_, _, rfl⟩, _, ⟨_, _, rfl⟩, _, ⟨_, _, rfl⟩, rfl⟩ := made
  have address := ofAddress?_databaseUrl databasePort model.database.identityProvider.database
  simp only [List.forall_mem_cons]
  exact ⟨EnvVar.sound_literal (by decide), EnvVar.sound_literal (by decide),
    EnvVar.sound_literal (by decide), EnvVar.sound_literal (by decide),
    EnvVar.sound_literal (by decide), EnvVar.sound_literal (by decide),
    EnvVar.sound_literal (by decide),
    EnvVar.sound_address (by decide) address (listens_of_port (by decide) found),
    EnvVar.sound_literal (by decide), EnvVar.sound_ofSource (by decide),
    EnvVar.sound_ofSource (by decide), EnvVar.sound_ofSource (by decide), List.forall_mem_nil _⟩

theorem wires (modelValid : model.validate = .ok ())
    (made : generate model config = .ok descriptor) : owner.Wires model descriptor := by
  obtain ⟨httpPort, managementPort, databasePort, env, image, check, database, replicas, httpFound,
    managementFound, databaseFound, envs, _, checks, waits, _, listed⟩ := generate_ok made
  have deployed : Deployed model owner
      (pod [database] (container image httpPort managementPort check env))
      [.tcp "http" httpPort, .tcp "management" managementPort] [database]
      (container image httpPort managementPort check env) := by
    have waiting : ∀ step ∈ [database], step.Sound model :=
      List.forall_mem_singleton.mpr (Database.sound_waitStep waits)
    refine ⟨.cons httpFound (.cons managementFound .nil), rfl, rfl, rfl, waiting, ?_, ?_⟩
    · exact sound_environment databaseFound envs
    · -- Health is asked for at the management port, whichever lookup it comes from.
      obtain ⟨port, found, rfl⟩ := healthCheck_eq_ok.mp checks
      obtain rfl := Except.ok.inj (found.symm.trans managementFound)
      have second : port ∈ [httpPort, port] := List.mem_cons_of_mem _ List.mem_cons_self
      exact List.forall_mem_cons.mpr ⟨List.forall_mem_singleton.mpr second,
        List.forall_mem_singleton.mpr (List.forall_mem_singleton.mpr second)⟩
  have here : Listens model ⟨service, httpPort.toNat⟩ := listens_of_port (by decide) httpFound
  refine deployed.wires modelValid listed rfl (.deployment config replicas) ?_
  simp only [List.forall_mem_cons]
  exact ⟨.routed (List.forall_mem_singleton.mpr here), List.forall_mem_nil _⟩

end IdentityProvider

namespace CatalogApi

theorem sound_databaseEnvironment {env : List EnvVar}
    (made : databaseEnvironment model config = .ok env) : ∀ held ∈ env, held.Sound model := by
  simp only [databaseEnvironment, Outcome.bind_eq_ok, Configuration.secretEnv_eq_ok,
    Except.ok.injEq] at made
  obtain ⟨port, found, _, ⟨_, _, rfl⟩, rfl⟩ := made
  have host : (EnvVar.literal "DATABASE_HOST" Database.service).Sound model :=
    ⟨fun named => absurd named (by decide), fun _ => rfl, fun named => absurd named (by decide)⟩
  have notAddress : "DATABASE_PORT" ∉ addressVariables := by decide
  have notHost : "DATABASE_PORT" ≠ "DATABASE_HOST" := by decide
  have number : (EnvVar.literal "DATABASE_PORT" (toString port)).Sound model :=
    ⟨fun named => absurd named notAddress, fun named => absurd named notHost,
      fun _ => ⟨port, found, rfl⟩⟩
  refine List.forall_mem_cons.mpr ⟨host, List.forall_mem_cons.mpr ⟨number, ?_⟩⟩
  exact EnvVar.sound_of_names ["DATABASE_NAME", "DATABASE_USER", "DATABASE_PASSWORD"] rfl
    (by decide)

theorem sound_cacheEnvironment {env : List EnvVar}
    (made : cacheEnvironment model config = .ok env) : ∀ held ∈ env, held.Sound model := by
  simp only [cacheEnvironment, Outcome.bind_eq_ok, Configuration.secretEnv_eq_ok,
    Except.ok.injEq] at made
  obtain ⟨port, found, _, ⟨_, _, rfl⟩, rfl⟩ := made
  have read := @Endpoint.ofAddress?_eq_some "redis://" Cache.service "/0" port (by decide)
    (by decide) (by decide)
  have here : Listens model ⟨Cache.service, port.toNat⟩ := listens_of_port (by decide) found
  refine List.forall_mem_cons.mpr ⟨EnvVar.sound_address (by decide) read here, ?_⟩
  exact EnvVar.sound_of_names ["REDIS_PASSWORD"] rfl (by decide)

theorem sound_searchEnvironment {env : List EnvVar}
    (made : searchEnvironment model config = .ok env) : ∀ held ∈ env, held.Sound model := by
  simp only [searchEnvironment, Outcome.bind_eq_ok, Configuration.secretEnv_eq_ok,
    Except.ok.injEq] at made
  obtain ⟨port, found, _, ⟨_, _, rfl⟩, rfl⟩ := made
  have read := @Endpoint.ofAddress?_of_no_path "http://" SearchIndex.service port (by decide)
    (by decide)
  have here : Listens model ⟨SearchIndex.service, port.toNat⟩ := listens_of_port (by decide) found
  refine List.forall_mem_cons.mpr ⟨EnvVar.sound_address (by decide) read here, ?_⟩
  exact EnvVar.sound_of_names ["ELASTIC_USER", "ELASTIC_PASSWORD"] rfl (by decide)

theorem sound_storageEnvironment {env : List EnvVar}
    (made : storageEnvironment model config = .ok env) : ∀ held ∈ env, held.Sound model := by
  simp only [storageEnvironment, Outcome.bind_eq_ok, Configuration.secretEnv_eq_ok,
    Except.ok.injEq] at made
  obtain ⟨port, found, _, ⟨_, _, rfl⟩, _, ⟨_, _, rfl⟩, rfl⟩ := made
  have plain : Endpoint.PlainHost ObjectStore.service := by decide
  have read := Endpoint.ofAddress?_of_no_scheme plain port
  have here : Listens model ⟨ObjectStore.service, port.toNat⟩ := listens_of_port (by decide) found
  refine List.forall_mem_cons.mpr ⟨EnvVar.sound_address (by decide) read here, ?_⟩
  exact EnvVar.sound_of_names ["MINIO_PUBLIC_URL", "MINIO_ACCESS_KEY", "MINIO_SECRET_KEY",
    "MINIO_PUBLIC_BUCKET"] rfl (by decide)

end CatalogApi

theorem IdentityProvider.sound_internalUrl {url : String} (made : internalUrl model = .ok url) :
    (EnvVar.literal "KEYCLOAK_URL" url).Sound model := by
  obtain ⟨port, found, rfl⟩ := internalUrl_eq_ok.mp made
  have read := @Endpoint.ofAddress?_of_no_path "http://" service port (by decide) (by decide)
  have here : Listens model ⟨service, port.toNat⟩ := listens_of_port (by decide) found
  exact EnvVar.sound_address (by decide) read here

namespace CatalogApi

theorem sound_identityEnvironment {env : List EnvVar}
    (made : identityEnvironment model config = .ok env) : ∀ held ∈ env, held.Sound model := by
  simp only [identityEnvironment, Outcome.bind_eq_ok, Configuration.secretEnv_eq_ok,
    Except.ok.injEq] at made
  obtain ⟨url, address, client, _, _, ⟨_, _, rfl⟩, rfl⟩ := made
  refine List.forall_mem_cons.mpr ⟨IdentityProvider.sound_internalUrl address, ?_⟩
  exact EnvVar.sound_of_names ["KEYCLOAK_REALM", "OIDC_ISSUER", "OIDC_CLIENT_ID",
    "OIDC_CLIENT_SECRET"] rfl (by decide)

theorem sound_environment {env : List EnvVar} (made : environment model config = .ok env) :
    ∀ held ∈ env, held.Sound model := by
  simp only [environment, Outcome.bind_eq_ok, Except.ok.injEq] at made
  obtain ⟨database, databases, cache, caches, search, searches, storage, storages, identity,
    identities, events, _, rfl⟩ := made
  simp only [List.forall_mem_append]
  exact ⟨⟨⟨⟨⟨⟨EnvVar.sound_of_names ["PUBLIC_URL", "API_ROOT_PATH"] rfl (by decide),
    sound_databaseEnvironment databases⟩, sound_cacheEnvironment caches⟩,
    sound_searchEnvironment searches⟩, sound_storageEnvironment storages⟩,
    sound_identityEnvironment identities⟩,
    EnvVar.sound_of_names ["KAFKA_BOOTSTRAP_SERVERS"] rfl (by decide)⟩

theorem sound_waitSteps {image : String} {steps : List WaitStep}
    (made : waitSteps model image = .ok steps) : ∀ step ∈ steps, step.Sound model := by
  simp only [waitSteps, Outcome.bind_eq_ok, Except.ok.injEq] at made
  obtain ⟨port, found, check, checks, rfl⟩ := made
  have here : Listens model ⟨SearchIndex.service, port.toNat⟩ := listens_of_port (by decide) found
  have search : (WaitStep.ofCheck SearchIndex.service (.tcp SearchIndex.service port) image).Sound
      model := ⟨_, Endpoint.ofCommand?_tcp rfl, here⟩
  exact List.forall_mem_cons.mpr ⟨search,
    List.forall_mem_singleton.mpr (IdentityProvider.sound_healthStep checks image)⟩

theorem wires (modelValid : model.validate = .ok ())
    (made : generate model config = .ok descriptor) : owner.Wires model descriptor := by
  obtain ⟨port, waitImage, steps, image, env, replicas, found, _, waits, _, envs, _, listed⟩ :=
    generate_ok made
  have deployed : Deployed model owner (pod steps (container image port env)) [.tcp "http" port]
      steps (container image port env) := by
    refine ⟨.cons found .nil, rfl, rfl, rfl, sound_waitSteps waits, ?_, ?_⟩
    · refine List.forall_mem_append.mpr ⟨sound_environment envs, ?_⟩
      exact EnvVar.sound_of_names ["PORT"] rfl (by decide)
    · exact List.forall_mem_singleton.mpr (List.forall_mem_singleton.mpr List.mem_cons_self)
  exact deployed.wires modelValid listed rfl (.deployment config replicas) (List.forall_mem_nil _)

end CatalogApi

namespace IngressRouter

theorem rules_listen {routes : List PathRule} (made : rules model = .ok routes) :
    ∀ rule ∈ routes, Listens model ⟨rule.service, rule.port.toNat⟩ := by
  simp only [rules, Outcome.bind_eq_ok, Except.ok.injEq] at made
  obtain ⟨apiPort, apiFound, storagePort, storageFound, rfl⟩ := made
  have api : Listens model ⟨CatalogApi.service, apiPort.toNat⟩ :=
    listens_of_port (by decide) apiFound
  have storage : Listens model ⟨ObjectStore.service, storagePort.toNat⟩ :=
    listens_of_port (by decide) storageFound
  exact List.forall_mem_cons.mpr ⟨api, List.forall_mem_singleton.mpr storage⟩

/-- The component has no pods at all. -/
theorem wires (made : generate model config = .ok descriptor) : owner.Wires model descriptor := by
  obtain ⟨routes, found, listed⟩ := generate_ok made
  have lists := (Descriptor.ofResources_eq_ok.mp listed).2.2
  have wired : (owner.podTemplate (PodSpec.ofContainers [])).Wired (Listens model) :=
    ⟨List.forall_mem_nil _, List.forall_mem_nil _⟩
  refine ⟨_, [], _, lists, ⟨?_, wired, List.forall_mem_nil _, absurd rfl, absurd rfl⟩, .nil⟩
  refine List.forall_mem_cons.mpr ⟨.routed (rules_listen found), ?_⟩
  unfold certificates
  split
  · exact List.forall_mem_singleton.mpr (.inert rfl rfl rfl)
  · exact List.forall_mem_nil _

end IngressRouter

namespace InitJob

theorem sound_identityEnvironment {env : List EnvVar}
    (made : identityEnvironment model config = .ok env) : ∀ held ∈ env, held.Sound model := by
  simp only [identityEnvironment, Outcome.bind_eq_ok, Configuration.secretEnv_eq_ok,
    Except.ok.injEq] at made
  obtain ⟨url, address, _, ⟨_, _, rfl⟩, _, ⟨_, _, rfl⟩, apiClient, _, _, ⟨_, _, rfl⟩, webClient, _,
    rfl⟩ := made
  refine List.forall_mem_cons.mpr ⟨IdentityProvider.sound_internalUrl address, ?_⟩
  exact EnvVar.sound_of_names ["KEYCLOAK_ADMIN_USER", "KEYCLOAK_ADMIN_PASSWORD", "REALM",
    "API_CLIENT_ID", "API_CLIENT_SECRET", "WEB_CLIENT_ID", "WEB_REDIRECT_URI", "WEB_ORIGIN"] rfl
    (by decide)

theorem sound_adminEnvironment (admin : Contact) :
    ∀ held ∈ adminEnvironment admin, held.Sound model := by
  unfold adminEnvironment
  cases admin.name with
  | none => exact EnvVar.sound_of_names ["ADMIN_EMAIL"] rfl (by decide)
  | some name => exact EnvVar.sound_of_names ["ADMIN_EMAIL", "ADMIN_NAME"] rfl (by decide)

theorem sound_mailEnvironment {env : List EnvVar} (made : mailEnvironment config = .ok env) :
    ∀ held ∈ env, held.Sound model := by
  unfold mailEnvironment at made
  cases relay : config.mail with
  | none =>
    rw [relay] at made
    cases made
    exact List.forall_mem_nil _
  | some mail =>
    rw [relay] at made
    obtain ⟨host, port, sender, user, passwordSecret, starttls⟩ := mail
    have named : ∀ held ∈ (user.map (EnvVar.literal "SMTP_USER")).toList, held.Sound model := by
      cases user with
      | none => exact List.forall_mem_nil _
      | some name => exact EnvVar.sound_of_names ["SMTP_USER"] rfl (by decide)
    have server : ∀ held ∈ [EnvVar.literal "SMTP_HOST" host,
        .literal "SMTP_PORT" (toString port), .literal "SMTP_FROM" sender,
        .literal "SMTP_STARTTLS" (toString starttls)], held.Sound model :=
      EnvVar.sound_of_names ["SMTP_HOST", "SMTP_PORT", "SMTP_FROM", "SMTP_STARTTLS"] rfl (by decide)
    cases passwordSecret with
    | none =>
      cases made
      simp only [List.forall_mem_append]
      exact ⟨⟨server, named⟩, List.forall_mem_nil _⟩
    | some identifier =>
      simp only [Outcome.bind_eq_ok, Outcome.map_eq_ok, Except.ok.injEq] at made
      obtain ⟨_, ⟨password, held, rfl⟩, rfl⟩ := made
      simp only [List.forall_mem_append]
      refine ⟨⟨server, named⟩, List.forall_mem_singleton.mpr ?_⟩
      refine EnvVar.sound_of_other ?_
      rw [Configuration.secretEnv_name held]
      decide

theorem sound_storageEnvironment {env : List EnvVar}
    (made : storageEnvironment model config = .ok env) : ∀ held ∈ env, held.Sound model := by
  simp only [storageEnvironment, Outcome.bind_eq_ok, Configuration.secretEnv_eq_ok,
    Except.ok.injEq] at made
  obtain ⟨port, found, _, ⟨_, _, rfl⟩, _, ⟨_, _, rfl⟩, rfl⟩ := made
  have read := @Endpoint.ofAddress?_of_no_path "http://" ObjectStore.service port (by decide)
    (by decide)
  have here : Listens model ⟨ObjectStore.service, port.toNat⟩ := listens_of_port (by decide) found
  refine List.forall_mem_cons.mpr ⟨EnvVar.sound_address (by decide) read here, ?_⟩
  exact EnvVar.sound_of_names ["MINIO_ROOT_USER", "MINIO_ROOT_PASSWORD", "BUCKETS",
    "PUBLIC_BUCKET", "STATE_CONFIGMAP"] rfl (by decide)

theorem sound_environment {env : List EnvVar} (made : environment model config = .ok env) :
    ∀ held ∈ env, held.Sound model := by
  simp only [environment, Outcome.bind_eq_ok, Except.ok.injEq] at made
  obtain ⟨identity, identities, mail, mails, storage, storages, rfl⟩ := made
  simp only [List.forall_mem_append]
  exact ⟨⟨⟨sound_identityEnvironment identities, sound_adminEnvironment config.admin⟩,
    sound_mailEnvironment mails⟩, sound_storageEnvironment storages⟩

theorem sound_waitSteps {steps : List WaitStep} (made : waitSteps model = .ok steps) :
    ∀ step ∈ steps, step.Sound model := by
  simp only [waitSteps, Outcome.bind_eq_ok, Except.ok.injEq] at made
  obtain ⟨database, databases, check, checks, image, _, rfl⟩ := made
  exact List.forall_mem_cons.mpr ⟨Database.sound_waitStep databases,
    List.forall_mem_singleton.mpr (IdentityProvider.sound_healthStep checks image)⟩

theorem wires (modelValid : model.validate = .ok ())
    (made : generate model config = .ok descriptor) : owner.Wires model descriptor := by
  obtain ⟨steps, image, env, waits, _, envs, listed⟩ := generate_ok made
  have lists := (Descriptor.ofResources_eq_ok.mp listed).2.2
  have deployed : Deployed model owner (pod steps ((Container.ofImage name image).withEnv env)) []
      steps ((Container.ofImage name image).withEnv env) :=
    ⟨.nil, rfl, rfl, rfl, sound_waitSteps waits, sound_environment envs, List.forall_mem_nil _⟩
  refine ⟨_, _, _, lists,
    ⟨?_, deployed.wired, deployed.exposes modelValid, absurd rfl, absurd rfl⟩, deployed.keyed⟩
  simp only [List.forall_mem_cons]
  exact ⟨.inert rfl rfl rfl, .inert rfl rfl rfl, .inert rfl rfl rfl, .job _ _, List.forall_mem_nil _⟩

end InitJob

/-! ### The whole platform -/

/-- The generators in order, each with the owner of its resources. -/
def sites : List (Generator × Owner) :=
  [(Database.generator, Database.owner), (Cache.generator, Cache.owner),
    (SearchIndex.generator, SearchIndex.owner), (ObjectStore.generator, ObjectStore.owner),
    (IdentityProvider.generator, IdentityProvider.owner), (CatalogApi.generator, CatalogApi.owner),
    (IngressRouter.generator, IngressRouter.owner), (InitJob.generator, InitJob.owner)]

theorem map_fst_sites : sites.map Prod.fst = Generator.all := rfl

theorem owners_nodup : (sites.map Prod.snd).Nodup := by decide

theorem sites_wire (modelValid : model.validate = .ok ()) :
    ∀ site ∈ sites, ∀ descriptor, site.1.generate model config = .ok descriptor →
      site.2.Wires model descriptor := by
  simp only [sites, List.forall_mem_cons]
  exact ⟨fun _ => Database.wires modelValid, fun _ => Cache.wires modelValid,
    fun _ => SearchIndex.wires modelValid, fun _ => ObjectStore.wires modelValid,
    fun _ => IdentityProvider.wires modelValid, fun _ => CatalogApi.wires modelValid,
    fun _ => IngressRouter.wires, fun _ => InitJob.wires modelValid, List.forall_mem_nil _⟩

/-- The workloads that are given addresses, and the variables that they are given them by. -/
def addressees : List (Kind × String × List String) :=
  [(.deployment, IdentityProvider.service, ["KC_DB_URL"]),
    (.deployment, CatalogApi.service, ["DATABASE_HOST", "DATABASE_PORT", "REDIS_URL",
      "ELASTIC_URL", "MINIO_ENDPOINT", "KEYCLOAK_URL"]),
    (.job, InitJob.name, ["KEYCLOAK_URL", "MINIO_ENDPOINT"])]

theorem IdentityProvider.hasVariables (made : generate model config = .ok descriptor) :
    ∃ resource, descriptor.get? (Kind.keyOf .deployment service) = some resource ∧
      resource.HasVariables ["KC_DB_URL"] := by
  obtain ⟨httpPort, managementPort, databasePort, env, image, check, database, replicas, _, _, _,
    envs, _, _, _, _, listed⟩ := generate_ok made
  have lists := (Descriptor.ofResources_eq_ok.mp listed).2.2
  refine ⟨_, (lists _ _).mpr ⟨List.mem_cons_self, rfl⟩, _, rfl, _, List.mem_cons_self, ?_⟩
  change ∀ name ∈ _, name ∈ env.map EnvVar.name
  simp only [environment, Outcome.bind_eq_ok, Except.ok.injEq] at envs
  obtain ⟨_, _, _, _, _, _, rfl⟩ := envs
  simp [EnvVar.literal]

theorem CatalogApi.hasVariables (made : generate model config = .ok descriptor) :
    ∃ resource, descriptor.get? (Kind.keyOf .deployment service) = some resource ∧
      resource.HasVariables ["DATABASE_HOST", "DATABASE_PORT", "REDIS_URL", "ELASTIC_URL",
        "MINIO_ENDPOINT", "KEYCLOAK_URL"] := by
  obtain ⟨port, waitImage, steps, image, env, replicas, _, _, _, _, envs, _, listed⟩ :=
    generate_ok made
  have lists := (Descriptor.ofResources_eq_ok.mp listed).2.2
  refine ⟨_, (lists _ _).mpr ⟨List.mem_cons_self, rfl⟩, _, rfl, _, List.mem_cons_self, ?_⟩
  change ∀ name ∈ _, name ∈ (env ++ [EnvVar.literal "PORT" (toString port)]).map EnvVar.name
  simp only [environment, databaseEnvironment, cacheEnvironment, searchEnvironment,
    storageEnvironment, identityEnvironment, Outcome.bind_eq_ok, Except.ok.injEq] at envs
  obtain ⟨_, ⟨_, _, _, _, rfl⟩, _, ⟨_, _, _, _, rfl⟩, _, ⟨_, _, _, _, rfl⟩,
    _, ⟨_, _, _, _, _, _, rfl⟩, _, ⟨_, _, _, _, _, _, rfl⟩, _, _, rfl⟩ := envs
  simp [EnvVar.literal]

theorem InitJob.hasVariables (made : generate model config = .ok descriptor) :
    ∃ resource, descriptor.get? (Kind.keyOf .job name) = some resource ∧
      resource.HasVariables ["KEYCLOAK_URL", "MINIO_ENDPOINT"] := by
  obtain ⟨steps, image, env, _, _, envs, listed⟩ := generate_ok made
  have lists := (Descriptor.ofResources_eq_ok.mp listed).2.2
  have last : ∀ {first second third fourth : Resource}, fourth ∈ [first, second, third, fourth] :=
    by simp
  refine ⟨_, (lists _ _).mpr ⟨last, rfl⟩, _, rfl, _, List.mem_cons_self, ?_⟩
  change ∀ name ∈ _, name ∈ env.map EnvVar.name
  simp only [environment, identityEnvironment, storageEnvironment, Outcome.bind_eq_ok,
    Except.ok.injEq] at envs
  obtain ⟨_, ⟨_, _, _, _, _, _, _, _, _, _, _, _, rfl⟩, _, _, _, ⟨_, _, _, _, _, _, rfl⟩, rfl⟩ :=
    envs
  simp [EnvVar.literal]

theorem exists_site_of_portKeys {host key : String} (listed : key ∈ portKeys host) :
    ∃ site ∈ sites, site.2.service = host := by
  have owned : ∀ listener ∈ listeners, ∃ site ∈ sites, site.2.service = listener.1 := by decide
  unfold portKeys at listed
  cases keys : listeners.lookup host with
  | none =>
    rw [keys] at listed
    cases listed
  | some held =>
    obtain ⟨before, after, split, _⟩ := List.lookup_eq_some_iff.mp keys
    exact owned (host, held) (by simp [split])

section Composed

variable {descriptors : List Descriptor} {set : ResourceSet}

/-- The component that a resource comes from, with all that it is made of. -/
structure Home (model : Model) (config : Configuration) (resource : Resource)
    (site : Generator × Owner) (descriptor : Descriptor) (pod : PodSpec)
    (ports : List ServicePort) (resources : List Resource) : Prop where
  listed : site ∈ sites
  made : site.1.generate model config = .ok descriptor
  lists : descriptor.Lists resources
  inside : resource ∈ resources
  segment : Segment (Listens model) site.2 pod ports resources

theorem exists_home (modelValid : model.validate = .ok ())
    (all : Generated model config Generator.all descriptors) (union : set.IsUnion descriptors)
    {resource : Resource} (held : set.Holds resource) :
    ∃ site, ∃ descriptor ∈ descriptors, ∃ pod ports resources,
      Home model config resource site descriptor pod ports resources := by
  obtain ⟨key, given⟩ := held
  obtain ⟨descriptor, member, found⟩ := union.get?_eq_some_iff.mp given
  obtain ⟨generator, listed, made⟩ := all.exists_generator member
  rw [← map_fst_sites] at listed
  obtain ⟨site, siteMember, rfl⟩ := List.mem_map.mp listed
  obtain ⟨pod, ports, resources, lists, segment, _⟩ :=
    sites_wire modelValid site siteMember descriptor made
  exact ⟨site, descriptor, member, pod, ports, resources, siteMember, made, lists,
    ((lists key resource).mp found).1, segment⟩

/-- What listens is a service of the set. -/
theorem serves_of_listens (modelValid : model.validate = .ok ())
    (all : Generated model config Generator.all descriptors) (union : set.IsUnion descriptors)
    {endpoint : Endpoint} (listens : Listens model endpoint) : set.Serves endpoint := by
  obtain ⟨key, listed, number, found, same⟩ := listens
  obtain ⟨site, siteMember, named⟩ := exists_site_of_portKeys listed
  have generatorMember : site.1 ∈ Generator.all := List.mem_map_of_mem siteMember
  obtain ⟨descriptor, member, made⟩ := all.exists_descriptor generatorMember
  obtain ⟨pod, ports, resources, lists, segment, keyed⟩ :=
    sites_wire modelValid site siteMember descriptor made
  obtain ⟨port, offered, given⟩ := exists_related keyed (named ▸ listed)
  obtain ⟨resource, inside, service, body, reached⟩ :=
    segment.reached (List.ne_nil_of_mem offered)
  obtain ⟨_, bodyPorts⟩ := (segment.parts resource inside).service service body
  refine ⟨resource, service, union.holds member lists inside, body, reached.trans named, port,
    bodyPorts ▸ offered, ?_⟩
  rw [← same, Except.ok.inj (given.symm.trans found)]

theorem exists_resource_of_generator (all : Generated model config Generator.all descriptors)
    (union : set.IsUnion descriptors) {generator : Generator} (member : generator ∈ Generator.all)
    {key : String} {property : Resource → Prop}
    (made : ∀ descriptor, generator.generate model config = .ok descriptor →
      ∃ resource, descriptor.get? key = some resource ∧ property resource) :
    ∃ resource, set.get? key = some resource ∧ property resource := by
  obtain ⟨descriptor, inside, success⟩ := all.exists_descriptor member
  obtain ⟨resource, found, holds⟩ := made descriptor success
  exact ⟨resource, union.get?_eq_some_iff.mpr ⟨descriptor, inside, found⟩, holds⟩

theorem exists_addressee (all : Generated model config Generator.all descriptors)
    (union : set.IsUnion descriptors) :
    ∀ addressee ∈ addressees, ∃ resource,
      set.get? (addressee.1.keyOf addressee.2.1) = some resource ∧
        resource.HasVariables addressee.2.2 := by
  have provider : IdentityProvider.generator ∈ Generator.all := by simp [Generator.all]
  have api : CatalogApi.generator ∈ Generator.all := by simp [Generator.all]
  have job : InitJob.generator ∈ Generator.all := by simp [Generator.all]
  simp only [addressees, List.forall_mem_cons]
  refine ⟨?_, ?_, ?_, List.forall_mem_nil _⟩
  · exact exists_resource_of_generator all union provider fun _ => IdentityProvider.hasVariables
  · exact exists_resource_of_generator all union api fun _ => CatalogApi.hasVariables
  · exact exists_resource_of_generator all union job fun _ => InitJob.hasVariables

/-- A service selects pods of its own component only, and they have its ports. -/
theorem exposes_of_selects {resource workload : Resource} {site other : Generator × Owner}
    {descriptor otherDescriptor : Descriptor} {pod otherPod : PodSpec}
    {ports otherPorts : List ServicePort} {resources otherResources : List Resource}
    (here : Home model config resource site descriptor pod ports resources)
    (there : Home model config workload other otherDescriptor otherPod otherPorts otherResources)
    {service : Service} (body : resource.service? = some service) {template : PodTemplate}
    (running : workload.template? = some template) (selects : service.Selects template) :
    ∀ port ∈ service.ports, template.Exposes port := by
  intro port member
  have selector := ((here.segment.parts resource here.inside).service service body).1
  rw [(there.segment.parts workload there.inside).template template running] at selects ⊢
  have owners : site.2 = other.2 := Owner.eq_of_selects selector selects
  obtain rfl : site = other :=
    List.inj_on_of_nodup_map owners_nodup here.listed there.listed owners
  obtain rfl := Except.ok.inj (here.made.symm.trans there.made)
  have inside : resource ∈ otherResources :=
    ((there.lists _ _).mp ((here.lists _ _).mpr ⟨here.inside, rfl⟩)).1
  have bodyPorts := ((there.segment.parts resource inside).service service body).2
  exact (there.segment.exposed port (bodyPorts ▸ member)).2

theorem wired_of_generated (modelValid : model.validate = .ok ())
    (all : Generated model config Generator.all descriptors) (union : set.IsUnion descriptors) :
    set.Wired := by
  have serves : ∀ endpoint, Listens model endpoint → set.Serves endpoint := fun _ =>
    serves_of_listens modelValid all union
  have home : ∀ {resource}, set.Holds resource → _ := exists_home modelValid all union
  refine ⟨?_, ?_, ?_⟩
  · intro resource held endpoint member
    obtain ⟨_, _, _, _, _, _, here⟩ := home held
    exact serves endpoint ((here.segment.parts resource here.inside).backends endpoint member)
  · intro resource template held given
    obtain ⟨_, _, _, _, _, _, here⟩ := home held
    rw [(here.segment.parts resource here.inside).template template given]
    exact here.segment.wired.mono serves
  · intro resource service held body port portMember
    obtain ⟨site, descriptor, member, pod, ports, resources, here⟩ := home held
    obtain ⟨selector, bodyPorts⟩ := (here.segment.parts resource here.inside).service service body
    have offered : port ∈ ports := bodyPorts ▸ portMember
    refine ⟨(here.segment.exposed port offered).1, ?_, ?_⟩
    · obtain ⟨workload, inside, running⟩ := here.segment.running (List.ne_nil_of_mem offered)
      exact ⟨workload, _, union.holds member here.lists inside, running,
        Owner.selects_own selector pod⟩
    · intro workload template workloadHeld running selects
      obtain ⟨_, _, _, _, _, _, there⟩ := home workloadHeld
      exact exposes_of_selects here there body running selects port portMember

end Composed

/-- Whatever ports the model assigns, the platform is wired: routes, wait steps and addresses refer
to services of the set, services to ports of their pods, and probes to ports of their containers.
The addresses are there, too. -/
theorem compose_all_wired {set : ResourceSet}
    (composed : compose model config Generator.all = .ok set) :
    set.Wired ∧ ∀ addressee ∈ addressees, ∃ resource,
      set.get? (addressee.1.keyOf addressee.2.1) = some resource ∧
        resource.HasVariables addressee.2.2 := by
  obtain ⟨_, modelValid, descriptors, all, union⟩ := compose_eq_ok.mp composed
  exact ⟨wired_of_generated modelValid all union, exists_addressee all union⟩

theorem compose_demonstration_wired :
    ∃ set, compose Model.standard Configuration.demonstration Generator.all = .ok set ∧
      set.Wired := by
  have success : (compose Model.standard Configuration.demonstration Generator.all).isOk := by
    decide +kernel
  cases composed : compose Model.standard Configuration.demonstration Generator.all with
  | error cause =>
    rw [composed] at success
    cases success
  | ok set => exact ⟨set, rfl, (compose_all_wired composed).1⟩

end PlatformManifests
