import PlatformManifests.Component.Selection
import PlatformManifests.Proofs.Descriptor
import PlatformManifests.Proofs.Lookup
import PlatformManifests.Proofs.Route
import PlatformManifests.Proofs.Validation

/-!
What the components make. For each generator: the resources of a descriptor that it has made, in
terms of the values that it has looked up.
-/
namespace PlatformManifests

variable {model : Model} {config : Configuration} {descriptor : Descriptor}

theorem Database.generate_ok (made : Database.generate model config = .ok descriptor) :
    ∃ port env check image size, model.port PortKey.postgres = .ok port ∧
      environment model config = .ok env ∧ readiness model "127.0.0.1" = .ok check ∧
      model.image ImageKey.postgres = .ok image ∧
      model.volumeSize VolumeKey.postgres = .ok size ∧
      Descriptor.ofResources component [
        owner.statefulSet config (pod (container image port check env)),
        owner.internalService config [.tcp "postgres" port],
        owner.volumeClaim config claimName size,
        scripts config] = .ok descriptor := by
  simp only [generate, Outcome.bind_eq_ok] at made
  obtain ⟨port, ports, env, envs, check, checks, image, images, size, sizes, listed⟩ := made
  exact ⟨port, env, check, image, size, ports, envs, checks, images, sizes, listed⟩

theorem Cache.generate_ok (made : Cache.generate model config = .ok descriptor) :
    ∃ port image password, model.port PortKey.redis = .ok port ∧
      model.image ImageKey.redis = .ok image ∧
      config.secretEnv "REDIS_PASSWORD" SecretId.redis .password = .ok password ∧
      Descriptor.ofResources component [
        owner.statefulSet config (pod (container image port password)),
        owner.internalService config [.tcp "redis" port]] = .ok descriptor := by
  simp only [generate, Outcome.bind_eq_ok] at made
  obtain ⟨port, ports, image, images, password, passwords, listed⟩ := made
  exact ⟨port, image, password, ports, images, passwords, listed⟩

theorem SearchIndex.generate_ok (made : SearchIndex.generate model config = .ok descriptor) :
    ∃ port env image size, model.port PortKey.elasticsearch = .ok port ∧
      environment config port = .ok env ∧ model.image ImageKey.elasticsearch = .ok image ∧
      model.volumeSize VolumeKey.elasticsearch = .ok size ∧
      Descriptor.ofResources component [
        owner.statefulSet config (pod (container image port env)),
        owner.internalService config [.tcp "http" port],
        owner.volumeClaim config claimName size,
        owner.routed model config service ∅ (config.host config.subdomains.search)
          [.ofPrefix "/" service port]] = .ok descriptor := by
  simp only [generate, Outcome.bind_eq_ok, Owner.route_eq_ok] at made
  obtain ⟨port, ports, env, envs, image, images, _, ⟨_, rfl⟩, size, sizes, listed⟩ := made
  exact ⟨port, env, image, size, ports, envs, images, sizes, listed⟩

theorem ObjectStore.generate_ok (made : ObjectStore.generate model config = .ok descriptor) :
    ∃ apiPort consolePort env image size, model.port PortKey.minioApi = .ok apiPort ∧
      model.port PortKey.minioConsole = .ok consolePort ∧ environment config = .ok env ∧
      model.image ImageKey.minio = .ok image ∧ model.volumeSize VolumeKey.minio = .ok size ∧
      Descriptor.ofResources component [
        owner.statefulSet config (pod (container image apiPort consolePort env)),
        owner.internalService config [.tcp "api" apiPort, .tcp "console" consolePort],
        owner.volumeClaim config claimName size,
        owner.routed model config apiRoute apiAnnotations (config.host config.subdomains.storage)
          [.ofPrefix "/" service apiPort],
        owner.routed model config consoleRoute ∅ (config.host config.subdomains.storageConsole)
          [.ofPrefix "/" service consolePort]] = .ok descriptor := by
  simp only [generate, Outcome.bind_eq_ok, Owner.route_eq_ok] at made
  obtain ⟨apiPort, apiPorts, consolePort, consolePorts, env, envs, image, images, _, ⟨_, rfl⟩,
    _, ⟨_, rfl⟩, size, sizes, listed⟩ := made
  exact ⟨apiPort, consolePort, env, image, size, apiPorts, consolePorts, envs, images, sizes,
    listed⟩

theorem IdentityProvider.generate_ok
    (made : IdentityProvider.generate model config = .ok descriptor) :
    ∃ httpPort managementPort databasePort env image check database replicas,
      model.port PortKey.keycloakHttp = .ok httpPort ∧
      model.port PortKey.keycloakManagement = .ok managementPort ∧
      model.port PortKey.postgres = .ok databasePort ∧
      environment model config httpPort managementPort databasePort = .ok env ∧
      model.image ImageKey.keycloak = .ok image ∧ healthCheck model = .ok check ∧
      Database.waitStep model = .ok database ∧
      model.replicaCount ImageKey.keycloak = .ok replicas ∧
      Descriptor.ofResources component [
        owner.deployment config replicas
          (pod [database] (container image httpPort managementPort check env)),
        owner.internalService config [.tcp "http" httpPort, .tcp "management" managementPort],
        owner.routed model config service ∅ (config.host config.subdomains.identity)
          [.ofPrefix "/" service httpPort]] = .ok descriptor := by
  simp only [generate, Outcome.bind_eq_ok, Owner.route_eq_ok] at made
  obtain ⟨httpPort, httpPorts, managementPort, managementPorts, databasePort, databasePorts, env,
    envs, image, images, check, checks, database, databases, _, ⟨_, rfl⟩, replicas, counts,
    listed⟩ := made
  exact ⟨httpPort, managementPort, databasePort, env, image, check, database, replicas, httpPorts,
    managementPorts, databasePorts, envs, images, checks, databases, counts, listed⟩

theorem CatalogApi.generate_ok (made : CatalogApi.generate model config = .ok descriptor) :
    ∃ port waitImage steps image env replicas, model.port PortKey.catalogApi = .ok port ∧
      model.waitImage = .ok waitImage ∧ waitSteps model waitImage = .ok steps ∧
      model.image ImageKey.catalogApi = .ok image ∧ environment model config = .ok env ∧
      model.replicaCount ImageKey.catalogApi = .ok replicas ∧
      Descriptor.ofResources component [
        owner.deployment config replicas (pod steps (container image port env)),
        owner.internalService config [.tcp "http" port]] = .ok descriptor := by
  simp only [generate, Outcome.bind_eq_ok] at made
  obtain ⟨port, ports, waitImage, waitImages, steps, waits, image, images, env, envs, replicas,
    counts, listed⟩ := made
  exact ⟨port, waitImage, steps, image, env, replicas, ports, waitImages, waits, images, envs,
    counts, listed⟩

theorem IngressRouter.generate_ok (made : IngressRouter.generate model config = .ok descriptor) :
    ∃ routes, rules model = .ok routes ∧
      Descriptor.ofResources component
        (owner.routed model config routeName ∅ (config.host "") routes :: certificates config) =
          .ok descriptor := by
  simp only [generate, Outcome.bind_eq_ok, Owner.route_eq_ok] at made
  obtain ⟨routes, found, _, ⟨_, rfl⟩, listed⟩ := made
  exact ⟨routes, found, listed⟩

/-- The rules of the job contain no wildcard, so its role is always granted. -/
theorem InitJob.checkedRole_accessRules (metadata : Metadata) :
    checkedRole metadata accessRules = .ok (.ofBody metadata ⟨accessRules⟩) := rfl

theorem InitJob.generator_mem_all : generator ∈ Generator.all := by simp [Generator.all]

theorem InitJob.generate_ok (made : InitJob.generate model config = .ok descriptor) :
    ∃ steps image env, waitSteps model = .ok steps ∧
      model.image ImageKey.platformInit = .ok image ∧ environment model config = .ok env ∧
      Descriptor.ofResources component [
        .serviceAccount (.ofBody (owner.metadata config name) ⟨none⟩),
        .role (.ofBody (owner.metadata config name) ⟨accessRules⟩),
        .roleBinding (bindRole (owner.metadata config name) name name),
        .job (.ofBody (owner.metadata config name) ⟨backoffLimit,
          owner.podTemplate (pod steps ((Container.ofImage name image).withEnv env))⟩)] =
        .ok descriptor := by
  simp only [generate, Outcome.bind_eq_ok, checkedRole_accessRules, Except.ok.injEq] at made
  obtain ⟨steps, waits, image, images, env, envs, _, rfl, listed⟩ := made
  exact ⟨steps, image, env, waits, images, envs, listed⟩

end PlatformManifests
