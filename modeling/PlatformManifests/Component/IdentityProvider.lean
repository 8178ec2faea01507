import PlatformManifests.Component.Database

/-!
The identity provider. It keeps its data in the database and waits for it; its health is asked for
at a port of its own.
-/
namespace PlatformManifests.IdentityProvider

def component : String := "identity-provider"

def service : String := "keycloak"

def owner : Owner := ⟨service, component⟩

def healthPath : String := "/health/ready"

/-- Tells whether the identity provider is ready. -/
def healthCheck (model : Model) : Outcome ReadinessCheck := do
  let port ← model.port PortKey.keycloakManagement
  .ok (.http service port healthPath)

/-- The address inside the cluster. -/
def internalUrl (model : Model) : Outcome String := do
  let port ← model.port PortKey.keycloakHttp
  .ok ("http://" ++ service ++ ":" ++ toString port)

def databaseUrl (port : UInt16) (database : String) : String :=
  "jdbc:postgresql://" ++ Database.service ++ ":" ++ toString port ++ "/" ++ database

def environment (model : Model) (config : Configuration)
    (httpPort managementPort databasePort : UInt16) : Outcome (List EnvVar) := do
  let account := model.database.identityProvider
  let password ← config.secretEnv "KC_DB_PASSWORD" SecretId.postgresIdentity .password
  let adminName ← config.secretEnv "KC_BOOTSTRAP_ADMIN_USERNAME" SecretId.keycloakAdmin .username
  let adminPassword ←
    config.secretEnv "KC_BOOTSTRAP_ADMIN_PASSWORD" SecretId.keycloakAdmin .password
  .ok [
    .literal "KC_HOSTNAME" (config.externalUrl config.subdomains.identity),
    .literal "KC_HTTP_ENABLED" "true",
    .literal "KC_HTTP_PORT" (toString httpPort),
    .literal "KC_HTTP_MANAGEMENT_PORT" (toString managementPort),
    .literal "KC_PROXY_HEADERS" "xforwarded",
    .literal "KC_HEALTH_ENABLED" "true",
    .literal "KC_DB" "postgres",
    .literal "KC_DB_URL" (databaseUrl databasePort account.database),
    .literal "KC_DB_USERNAME" account.user,
    password,
    adminName,
    adminPassword]

def container (image : String) (httpPort managementPort : UInt16) (check : ReadinessCheck)
    (env : List EnvVar) : Container :=
  Container.ofImage service image
    |>.withArgs ["start"]
    |>.withEnv env
    |>.withPort "http" httpPort
    |>.withPort "management" managementPort
    |>.withReadiness (check.probe (.after 30))
    |>.withLiveness ((ReadinessCheck.http service managementPort "/health/live").probe (.after 60))

def pod (steps : List WaitStep) (container : Container) : PodSpec :=
  { PodSpec.ofContainers [container] with initContainers := initContainers steps }

def generate (model : Model) (config : Configuration) : Outcome Descriptor := do
  let httpPort ← model.port PortKey.keycloakHttp
  let managementPort ← model.port PortKey.keycloakManagement
  let databasePort ← model.port PortKey.postgres
  let env ← environment model config httpPort managementPort databasePort
  let image ← model.image ImageKey.keycloak
  let check ← healthCheck model
  let database ← Database.waitStep model
  let route ← owner.route model config service ∅ (config.host config.subdomains.identity)
    [.ofPrefix "/" service httpPort]
  let replicas ← model.replicaCount ImageKey.keycloak
  Descriptor.ofResources component [
    owner.deployment config replicas
      (pod [database] (container image httpPort managementPort check env)),
    owner.internalService config [.tcp "http" httpPort, .tcp "management" managementPort],
    route]

def generator : Generator := ⟨component, generate⟩

end PlatformManifests.IdentityProvider
