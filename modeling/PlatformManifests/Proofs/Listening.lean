import PlatformManifests.Proofs.Endpoint
import PlatformManifests.Proofs.Requirements
import PlatformManifests.Proofs.Workloads

/-!
Listening. A port number stands in the service, in the container and in the probes; whether the
process itself listens there depends on what it is told. Every process is told the numbers of its
ports but the database, which is started in the same way whatever number the model gives it.
-/
namespace PlatformManifests

variable {model : Model} {config : Configuration} {descriptor : Descriptor}

/-! ### Ways to tell a number -/

/-- How a process is told the number of a port. -/
inductive Channel where
  | envVar (name : String)
  /-- The argument after a flag, with text before the number. -/
  | flag (name before : String)
deriving DecidableEq

namespace Channel

def text? (container : Container) : Channel → Option String
  | envVar name => (container.envVar? name).bind EnvVar.text?
  | flag name _ => container.args.bind (Endpoint.valueOf? name)

def written (port : UInt16) : Channel → String
  | envVar _ => toString port
  | flag _ before => before ++ toString port

def Tells (channel : Channel) (container : Container) (port : UInt16) : Prop :=
  channel.text? container = some (channel.written port)

/-- A process that is started in the same way is told the same number. -/
theorem Tells.port_eq {channel : Channel} {container other : Container} {port otherPort : UInt16}
    (told : channel.Tells container port) (otherTold : channel.Tells other otherPort)
    (args : container.args = other.args) (env : container.env = other.env) : port = otherPort := by
  have texts : channel.text? container = channel.text? other := by
    cases channel <;> simp only [text?, Container.envVar?, args, env]
  have same := Option.some.inj (told.symm.trans (texts.trans otherTold))
  cases channel with
  | envVar name => exact Endpoint.port_injective same
  | flag name before => exact Endpoint.port_injective (String.append_right_inj before |>.mp same)

theorem tells_envVar {settings : Settings} {container : Container} {name key : String}
    {port : UInt16} (realized : Realized model config settings container.env)
    (distinct : (settings.map Prod.fst).Nodup) (inside : (name, .port "" key "") ∈ settings)
    (found : model.port key = .ok port) : (envVar name).Tells container port := by
  obtain ⟨held, resolved, told⟩ := realized.envVar?_eq_some distinct inside
  obtain rfl := Except.ok.inj ((Setting.resolve_number found).symm.trans resolved)
  rw [Tells, text?, told]
  rfl

end Channel

/-- A named port of a container, and the way in which the process is told its number, if any. -/
structure Listener where
  name : String
  channel : Option Channel
deriving DecidableEq

def Listener.Hears (container : Container) (listener : Listener) (port : ContainerPort) : Prop :=
  port.name = some listener.name ∧
    match listener.channel with
    | none => True
    | some channel => channel.Tells container port.containerPort

def Container.Listens (listeners : List Listener) (container : Container) : Prop :=
  List.Forall₂ (Listener.Hears container) listeners container.ports

def Descriptor.Listens (entries : List (String × List Listener)) (descriptor : Descriptor) :
    Prop :=
  Catalogued descriptor.get? Resource.mainContainer? Container.Listens entries

/-! ### Components -/

namespace Database

def listeners : List Listener := [⟨"postgres", none⟩]

theorem listens (made : generate model config = .ok descriptor) :
    descriptor.Listens [(workload, listeners)] := by
  obtain ⟨port, env, check, image, size, _, _, _, _, _, listed⟩ := generate_ok made
  have lists := (Descriptor.ofResources_eq_ok.mp listed).2.2
  have hears : (container image port check env).Listens listeners := .cons ⟨rfl, trivial⟩ .nil
  refine Tabulated.catalogued ?_ lists
  exact .entry rfl rfl hears (.skip rfl (.skip rfl (.skip rfl .nil)))

end Database

namespace Cache

def listeners : List Listener := [⟨"redis", some (.flag "--port" "")⟩]

theorem listens (made : generate model config = .ok descriptor) :
    descriptor.Listens [(workload, listeners)] := by
  obtain ⟨port, image, password, _, _, _, listed⟩ := generate_ok made
  have lists := (Descriptor.ofResources_eq_ok.mp listed).2.2
  have told : (Channel.flag "--port" "").Tells (container image port password) port :=
    congrArg some (String.empty_append ..).symm
  have hears : (container image port password).Listens listeners := .cons ⟨rfl, told⟩ .nil
  refine Tabulated.catalogued ?_ lists
  exact .entry rfl rfl hears (.skip rfl .nil)

end Cache

namespace SearchIndex

def listeners : List Listener := [⟨"http", some (.envVar "http.port")⟩]

theorem listens (made : generate model config = .ok descriptor) :
    descriptor.Listens [(workload, listeners)] := by
  obtain ⟨port, env, image, size, found, envs, _, _, listed⟩ := generate_ok made
  have lists := (Descriptor.ofResources_eq_ok.mp listed).2.2
  have distinct := workloads_distinct _ (@SearchIndex.listed model config)
  have told : (Channel.envVar "http.port").Tells (container image port env) port :=
    Channel.tells_envVar (realized_environment found envs) distinct (by simp [settings]) found
  have hears : (container image port env).Listens listeners := .cons ⟨rfl, told⟩ .nil
  refine Tabulated.catalogued ?_ lists
  exact .entry rfl rfl hears (.skip rfl (.skip rfl (.skip rfl .nil)))

end SearchIndex

namespace ObjectStore

def listeners : List Listener :=
  [⟨"api", some (.flag "--address" ":")⟩, ⟨"console", some (.flag "--console-address" ":")⟩]

theorem listens (made : generate model config = .ok descriptor) :
    descriptor.Listens [(workload, listeners)] := by
  obtain ⟨apiPort, consolePort, env, image, size, _, _, _, _, _, listed⟩ := generate_ok made
  have lists := (Descriptor.ofResources_eq_ok.mp listed).2.2
  have api : (Channel.flag "--address" ":").Tells (container image apiPort consolePort env)
      apiPort := rfl
  have console : (Channel.flag "--console-address" ":").Tells
      (container image apiPort consolePort env) consolePort := by
    have differ : ":" ++ toString apiPort ≠ "--console-address" := by
      intro same
      have heads := congrArg (fun text : String => text.toList.head?) same
      simp [String.toList_append] at heads
    show Endpoint.valueOf? "--console-address" ["server", dataDirectory, "--address",
      ":" ++ toString apiPort, "--console-address", ":" ++ toString consolePort] = _
    simp [Endpoint.valueOf?, dataDirectory, differ, Channel.written]
  have hears : (container image apiPort consolePort env).Listens listeners :=
    .cons ⟨rfl, api⟩ (.cons ⟨rfl, console⟩ .nil)
  refine Tabulated.catalogued ?_ lists
  exact .entry rfl rfl hears (.skip rfl (.skip rfl (.skip rfl (.skip rfl .nil))))

end ObjectStore

namespace IdentityProvider

def listeners : List Listener :=
  [⟨"http", some (.envVar "KC_HTTP_PORT")⟩,
    ⟨"management", some (.envVar "KC_HTTP_MANAGEMENT_PORT")⟩]

theorem listens (made : generate model config = .ok descriptor) :
    descriptor.Listens [(workload, listeners)] := by
  obtain ⟨httpPort, managementPort, databasePort, env, image, check, database, replicas, http,
    management, port, envs, _, _, _, _, listed⟩ := generate_ok made
  have lists := (Descriptor.ofResources_eq_ok.mp listed).2.2
  have distinct := workloads_distinct _ (@IdentityProvider.listed model config)
  have realized := realized_environment http management port envs
  have httpTold : (Channel.envVar "KC_HTTP_PORT").Tells
      (container image httpPort managementPort check env) httpPort :=
    Channel.tells_envVar realized distinct (by simp [settings]) http
  have managementTold : (Channel.envVar "KC_HTTP_MANAGEMENT_PORT").Tells
      (container image httpPort managementPort check env) managementPort :=
    Channel.tells_envVar realized distinct (by simp [settings]) management
  have hears : (container image httpPort managementPort check env).Listens listeners :=
    .cons ⟨rfl, httpTold⟩ (.cons ⟨rfl, managementTold⟩ .nil)
  refine Tabulated.catalogued ?_ lists
  exact .entry rfl rfl hears (.skip rfl (.skip rfl .nil))

end IdentityProvider

namespace CatalogApi

def listeners : List Listener := [⟨"http", some (.envVar "PORT")⟩]

theorem listens (made : generate model config = .ok descriptor) :
    descriptor.Listens [(workload, listeners)] := by
  obtain ⟨port, waitImage, steps, image, env, replicas, found, _, _, _, envs, _, listed⟩ :=
    generate_ok made
  have lists := (Descriptor.ofResources_eq_ok.mp listed).2.2
  have distinct := workloads_distinct _ (@CatalogApi.listed model config)
  have told : (Channel.envVar "PORT").Tells (container image port env) port :=
    Channel.tells_envVar (realized_environment found envs) distinct (by simp [settings]) found
  have hears : (container image port env).Listens listeners := .cons ⟨rfl, told⟩ .nil
  refine Tabulated.catalogued ?_ lists
  exact .entry rfl rfl hears (.skip rfl .nil)

end CatalogApi

theorem IngressRouter.listens (made : generate model config = .ok descriptor) :
    descriptor.Listens [] := by
  obtain ⟨routes, _, listed⟩ := generate_ok made
  have lists := (Descriptor.ofResources_eq_ok.mp listed).2.2
  refine Tabulated.catalogued ?_ lists
  exact .skip rfl (tabulated_certificates rfl)

/-- The job has no ports. -/
theorem InitJob.listens (made : generate model config = .ok descriptor) :
    descriptor.Listens [(workload, [])] := by
  obtain ⟨steps, image, env, _, _, _, listed⟩ := generate_ok made
  have lists := (Descriptor.ofResources_eq_ok.mp listed).2.2
  have hears : ((Container.ofImage name image).withEnv env).Listens [] := .nil
  refine Tabulated.catalogued ?_ lists
  exact .skip rfl (.skip rfl (.skip rfl (.entry rfl rfl hears .nil)))

/-! ### The platform -/

def listenerRosters : List (Generator × List (String × List Listener)) :=
  [(Database.generator, [(Database.workload, Database.listeners)]),
    (Cache.generator, [(Cache.workload, Cache.listeners)]),
    (SearchIndex.generator, [(SearchIndex.workload, SearchIndex.listeners)]),
    (ObjectStore.generator, [(ObjectStore.workload, ObjectStore.listeners)]),
    (IdentityProvider.generator, [(IdentityProvider.workload, IdentityProvider.listeners)]),
    (CatalogApi.generator, [(CatalogApi.workload, CatalogApi.listeners)]),
    (IngressRouter.generator, []), (InitJob.generator, [(InitJob.workload, [])])]

def workloadListeners : List (String × List Listener) := listenerRosters.flatMap Prod.snd

theorem listenerRosters_listen : ∀ roster ∈ listenerRosters, ∀ descriptor,
    roster.1.generate model config = .ok descriptor → descriptor.Listens roster.2 := by
  simp only [listenerRosters, List.forall_mem_cons]
  exact ⟨fun _ => Database.listens, fun _ => Cache.listens, fun _ => SearchIndex.listens,
    fun _ => ObjectStore.listens, fun _ => IdentityProvider.listens, fun _ => CatalogApi.listens,
    fun _ => IngressRouter.listens, fun _ => InitJob.listens, List.forall_mem_nil _⟩

/-- The database is the one process that is not told its port. -/
theorem workloadListeners_told : ∀ entry ∈ workloadListeners, entry.1 ≠ Database.workload →
    ∀ listener ∈ entry.2, listener.channel.isSome := by
  decide +kernel

theorem workloadListeners_distinct : (workloadListeners.map Prod.fst).Nodup ∧
    ∀ entry ∈ workloadListeners, (entry.2.map Listener.name).Nodup := by
  decide +kernel

section Composed

variable {set : ResourceSet}

theorem exists_listeners (composed : compose model config Generator.all = .ok set) {key : String}
    {container : Container} (found : set.mainContainer? key = some container) :
    ∃ listeners, (key, listeners) ∈ workloadListeners ∧ container.Listens listeners := by
  obtain ⟨resource, held, main⟩ := Option.bind_eq_some_iff.mp found
  exact (catalogued_of_composed composed listenerRosters_listen).only held main

theorem start_differs {second : Model} {other : ResourceSet}
    (composed : compose model config Generator.all = .ok set)
    (otherComposed : compose second config Generator.all = .ok other) {key : String}
    (notDatabase : key ≠ Database.workload) {container otherContainer : Container}
    (found : set.mainContainer? key = some container)
    (otherFound : other.mainContainer? key = some otherContainer) {port otherPort : ContainerPort}
    (member : port ∈ container.ports) (otherMember : otherPort ∈ otherContainer.ports)
    (sameName : port.name = otherPort.name)
    (differ : port.containerPort ≠ otherPort.containerPort) :
    ¬ (container.args = otherContainer.args ∧ container.env = otherContainer.env) := by
  rintro ⟨args, env⟩
  obtain ⟨keys, names⟩ := workloadListeners_distinct
  obtain ⟨listeners, listed, listens⟩ := exists_listeners composed found
  obtain ⟨otherListeners, otherListed, otherListens⟩ := exists_listeners otherComposed otherFound
  -- Both workloads are under the same key, so they have the same listeners.
  have entries := List.inj_on_of_nodup_map keys listed otherListed rfl
  obtain rfl : listeners = otherListeners := congrArg Prod.snd entries
  obtain ⟨listener, inside, named, told⟩ := exists_related listens.flip member
  obtain ⟨otherListener, otherInside, otherNamed, otherTold⟩ :=
    exists_related otherListens.flip otherMember
  -- Both ports have the same name, so they are told in the same way.
  have listenerNames : listener.name = otherListener.name :=
    Option.some.inj (named.symm.trans (sameName.trans otherNamed))
  obtain rfl := List.inj_on_of_nodup_map (names _ listed) inside otherInside listenerNames
  have known := workloadListeners_told _ listed notDatabase listener inside
  obtain ⟨channel, given⟩ := Option.isSome_iff_exists.mp known
  rw [given] at told otherTold
  exact differ (told.port_eq otherTold args env)

theorem exists_cache (composed : compose model config Generator.all = .ok set) :
    ∃ container port, set.mainContainer? Cache.workload = some container ∧
      model.port PortKey.redis = .ok port ∧
      container.ports = [⟨some "redis", port, some "TCP"⟩] := by
  have cache : Cache.generator ∈ Generator.all := by simp [Generator.all]
  obtain ⟨descriptor, made, held⟩ := exists_made composed cache
  obtain ⟨port, image, password, found, _, _, listed⟩ := Cache.generate_ok made
  have lists := (Descriptor.ofResources_eq_ok.mp listed).2.2
  have workload := held ((lists _ _).mpr ⟨List.mem_cons_self, rfl⟩)
  refine ⟨Cache.container image port password, port, ?_, found, rfl⟩
  exact Option.bind_eq_some_iff.mpr ⟨_, workload, rfl⟩

theorem exists_database (composed : compose model config Generator.all = .ok set) :
    ∃ container port, set.mainContainer? Database.workload = some container ∧
      model.port PortKey.postgres = .ok port ∧
      container.ports = [⟨some "postgres", port, some "TCP"⟩] ∧
      container.command = none ∧ container.args = none ∧
      Realized model config (Database.settings model) container.env := by
  have database : Database.generator ∈ Generator.all := by simp [Generator.all]
  obtain ⟨descriptor, made, held⟩ := exists_made composed database
  obtain ⟨port, env, check, image, size, found, envs, _, _, _, listed⟩ := Database.generate_ok made
  have lists := (Descriptor.ofResources_eq_ok.mp listed).2.2
  have workload := held ((lists _ _).mpr ⟨List.mem_cons_self, rfl⟩)
  refine ⟨Database.container image port check env, port, ?_, found, rfl, rfl, rfl,
    Database.realized_environment envs⟩
  exact Option.bind_eq_some_iff.mpr ⟨_, workload, rfl⟩

/-- The database starts in the same way for all models with the same accounts, whatever numbers
they give its port. -/
theorem exists_databases {second : Model} {other : ResourceSet}
    (composed : compose model config Generator.all = .ok set)
    (otherComposed : compose second config Generator.all = .ok other)
    (accounts : model.database = second.database) :
    ∃ container otherContainer port otherPort,
      set.mainContainer? Database.workload = some container ∧
      other.mainContainer? Database.workload = some otherContainer ∧
      model.port PortKey.postgres = .ok port ∧ second.port PortKey.postgres = .ok otherPort ∧
      container.ports = [⟨some "postgres", port, some "TCP"⟩] ∧
      otherContainer.ports = [⟨some "postgres", otherPort, some "TCP"⟩] ∧
      container.command = otherContainer.command ∧ container.args = otherContainer.args ∧
      container.env = otherContainer.env := by
  obtain ⟨container, port, found, known, ports, command, args, realized⟩ :=
    exists_database composed
  obtain ⟨otherContainer, otherPort, otherFound, otherKnown, otherPorts, otherCommand, otherArgs,
    otherRealized⟩ := exists_database otherComposed
  have settings : Database.settings second = Database.settings model := by
    rw [Database.settings, Database.settings, accounts]
  rw [settings] at otherRealized
  have env : container.env = otherContainer.env := by
    refine realized.unique otherRealized ?_
    simp only [Database.settings, List.forall_mem_cons]
    exact ⟨rfl, rfl, rfl, rfl, rfl, rfl, rfl, rfl, rfl, rfl, List.forall_mem_nil _⟩
  exact ⟨container, otherContainer, port, otherPort, found, otherFound, known, otherKnown, ports,
    otherPorts, command.trans otherCommand.symm, args.trans otherArgs.symm, env⟩

/-- Where a port has different numbers under two models, the process starts differently, except
for the database: its container port has the number of the model, but it starts in the same way
under all models with the same accounts. -/
theorem port_override_told_except_database {second : Model} {other : ResourceSet}
    (composed : compose model config Generator.all = .ok set)
    (otherComposed : compose second config Generator.all = .ok other) :
    (∀ key container otherContainer port otherPort, key ≠ Database.workload →
      set.mainContainer? key = some container → other.mainContainer? key = some otherContainer →
      port ∈ container.ports → otherPort ∈ otherContainer.ports → port.name = otherPort.name →
      port.containerPort ≠ otherPort.containerPort →
      ¬ (container.command = otherContainer.command ∧ container.args = otherContainer.args ∧
        container.env = otherContainer.env)) ∧
    (model.database = second.database → ∃ container otherContainer port otherPort,
      set.mainContainer? Database.workload = some container ∧
      other.mainContainer? Database.workload = some otherContainer ∧
      model.port PortKey.postgres = .ok port ∧ second.port PortKey.postgres = .ok otherPort ∧
      container.ports = [⟨some "postgres", port, some "TCP"⟩] ∧
      otherContainer.ports = [⟨some "postgres", otherPort, some "TCP"⟩] ∧
      container.command = otherContainer.command ∧ container.args = otherContainer.args ∧
      container.env = otherContainer.env) := by
  refine ⟨?_, exists_databases composed otherComposed⟩
  rintro key container otherContainer port otherPort notDatabase found otherFound member otherMember
    sameName differ ⟨_, start⟩
  exact start_differs composed otherComposed notDatabase found otherFound member otherMember
    sameName differ start

end Composed

theorem compose_demonstration_cache_port :
    ∃ set other container otherContainer,
      compose Model.standard Configuration.demonstration Generator.all = .ok set ∧
      compose (Model.standard.withPort PortKey.redis 6380) Configuration.demonstration
        Generator.all = .ok other ∧
      set.mainContainer? "statefulset/redis" = some container ∧
      other.mainContainer? "statefulset/redis" = some otherContainer ∧
      container.ports = [⟨some "redis", 6379, some "TCP"⟩] ∧
      otherContainer.ports = [⟨some "redis", 6380, some "TCP"⟩] ∧
      ¬ (container.command = otherContainer.command ∧ container.args = otherContainer.args ∧
        container.env = otherContainer.env) := by
  obtain ⟨set, composed⟩ := exists_compose_demonstration
  have nonzero : (6380 : UInt16) ≠ 0 := by decide
  obtain ⟨other, otherComposed⟩ := exists_compose_withPort composed PortKey.redis nonzero
  obtain ⟨container, port, found, known, ports⟩ := exists_cache composed
  obtain ⟨otherContainer, otherPort, otherFound, otherKnown, otherPorts⟩ :=
    exists_cache otherComposed
  have number : Model.standard.port PortKey.redis = .ok 6379 := by decide +kernel
  have otherNumber : (Model.standard.withPort PortKey.redis 6380).port PortKey.redis =
      .ok 6380 := by decide +kernel
  obtain rfl := Except.ok.inj (number.symm.trans known)
  obtain rfl := Except.ok.inj (otherNumber.symm.trans otherKnown)
  obtain ⟨told, _⟩ := port_override_told_except_database composed otherComposed
  have member : ⟨some "redis", 6379, some "TCP"⟩ ∈ container.ports := by
    rw [ports]
    exact List.mem_singleton_self _
  have otherMember : ⟨some "redis", 6380, some "TCP"⟩ ∈ otherContainer.ports := by
    rw [otherPorts]
    exact List.mem_singleton_self _
  exact ⟨set, other, container, otherContainer, composed, otherComposed, found, otherFound, ports,
    otherPorts, told _ _ _ _ _ (by decide) found otherFound member otherMember rfl (by decide)⟩

/-- Another number for the port of the database changes its container port and nothing that the
process is told. -/
theorem database_port_untold :
    ∃ set other container otherContainer,
      compose Model.standard Configuration.demonstration Generator.all = .ok set ∧
      compose (Model.standard.withPort PortKey.postgres 5433) Configuration.demonstration
        Generator.all = .ok other ∧
      set.mainContainer? "statefulset/postgres" = some container ∧
      other.mainContainer? "statefulset/postgres" = some otherContainer ∧
      container.ports = [⟨some "postgres", 5432, some "TCP"⟩] ∧
      otherContainer.ports = [⟨some "postgres", 5433, some "TCP"⟩] ∧
      container.command = otherContainer.command ∧ container.args = otherContainer.args ∧
      container.env = otherContainer.env := by
  obtain ⟨set, composed⟩ := exists_compose_demonstration
  have nonzero : (5433 : UInt16) ≠ 0 := by decide
  obtain ⟨other, otherComposed⟩ := exists_compose_withPort composed PortKey.postgres nonzero
  obtain ⟨container, otherContainer, port, otherPort, found, otherFound, known, otherKnown,
    start⟩ := exists_databases composed otherComposed rfl
  have number : Model.standard.port PortKey.postgres = .ok 5432 := by decide +kernel
  have otherNumber : (Model.standard.withPort PortKey.postgres 5433).port PortKey.postgres =
      .ok 5433 := by decide +kernel
  obtain rfl := Except.ok.inj (number.symm.trans known)
  obtain rfl := Except.ok.inj (otherNumber.symm.trans otherKnown)
  exact ⟨set, other, container, otherContainer, composed, otherComposed, found, otherFound, start⟩

end PlatformManifests
