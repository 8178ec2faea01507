import PlatformManifests.Component.Cache
import PlatformManifests.Component.IdentityProvider
import PlatformManifests.Component.ObjectStore
import PlatformManifests.Component.SearchIndex

/-!
The catalog API. It keeps no data; every address that it uses is given to it in its environment.
-/
namespace PlatformManifests.CatalogApi

def component : String := "catalog-api"

def service : String := "catalog-api"

def owner : Owner := ⟨service, component⟩

/-- The paths of the domain that belong to the API. -/
def pathPrefix : String := "/api"

def healthPath : String := "/api/health"

def databaseEnvironment (model : Model) (config : Configuration) : Outcome (List EnvVar) := do
  let account := model.database.application
  let port ← model.port PortKey.postgres
  let password ← config.secretEnv "DATABASE_PASSWORD" SecretId.postgresApplication .password
  .ok [
    .literal "DATABASE_HOST" Database.service,
    .literal "DATABASE_PORT" (toString port),
    .literal "DATABASE_NAME" account.database,
    .literal "DATABASE_USER" account.user,
    password]

def cacheEnvironment (model : Model) (config : Configuration) : Outcome (List EnvVar) := do
  let port ← model.port PortKey.redis
  let password ← config.secretEnv "REDIS_PASSWORD" SecretId.redis .password
  .ok [.literal "REDIS_URL" ("redis://" ++ Cache.service ++ ":" ++ toString port ++ "/0"), password]

def searchEnvironment (model : Model) (config : Configuration) : Outcome (List EnvVar) := do
  let port ← model.port PortKey.elasticsearch
  let password ← config.secretEnv "ELASTIC_PASSWORD" SecretId.elastic .password
  .ok [
    .literal "ELASTIC_URL" ("http://" ++ SearchIndex.service ++ ":" ++ toString port),
    .literal "ELASTIC_USER" SearchIndex.user,
    password]

def storageEnvironment (model : Model) (config : Configuration) : Outcome (List EnvVar) := do
  let port ← model.port PortKey.minioApi
  let user ← config.secretEnv "MINIO_ACCESS_KEY" SecretId.minioRoot .username
  let password ← config.secretEnv "MINIO_SECRET_KEY" SecretId.minioRoot .password
  .ok [
    .literal "MINIO_ENDPOINT" (ObjectStore.service ++ ":" ++ toString port),
    .literal "MINIO_PUBLIC_URL" (config.externalUrl config.subdomains.storage),
    user,
    password,
    .literal "MINIO_PUBLIC_BUCKET" model.storage.publicBucket]

def identityEnvironment (model : Model) (config : Configuration) : Outcome (List EnvVar) := do
  let realm := model.identity.realm
  let url ← IdentityProvider.internalUrl model
  let client ← model.clientId ClientKey.catalogApi
  let secret ← config.secretEnv "OIDC_CLIENT_SECRET" SecretId.catalogApiClient .clientSecret
  .ok [
    .literal "KEYCLOAK_URL" url,
    .literal "KEYCLOAK_REALM" realm,
    .literal "OIDC_ISSUER"
      (config.externalUrl config.subdomains.identity ++ "/realms/" ++ realm),
    .literal "OIDC_CLIENT_ID" client,
    secret]

def environment (model : Model) (config : Configuration) : Outcome (List EnvVar) := do
  let database ← databaseEnvironment model config
  let cache ← cacheEnvironment model config
  let search ← searchEnvironment model config
  let storage ← storageEnvironment model config
  let identity ← identityEnvironment model config
  let events ← model.broker BrokerKey.events
  .ok ([.literal "PUBLIC_URL" (config.externalUrl ""), .literal "API_ROOT_PATH" pathPrefix]
    ++ database ++ cache ++ search ++ storage ++ identity
    ++ [.literal "KAFKA_BOOTSTRAP_SERVERS" events])

/-- Waits for the search index and for the identity provider. -/
def waitSteps (model : Model) (image : String) : Outcome (List WaitStep) := do
  let port ← model.port PortKey.elasticsearch
  let check ← IdentityProvider.healthCheck model
  .ok [
    .ofCheck SearchIndex.service (.tcp SearchIndex.service port) image,
    .ofCheck IdentityProvider.service check image]

def container (image : String) (port : UInt16) (env : List EnvVar) : Container :=
  Container.ofImage service image
    |>.withEnv env
    |>.withEnv [.literal "PORT" (toString port)]
    |>.withPort "http" port
    |>.withReadiness ((ReadinessCheck.http service port healthPath).probe (.after 10))

def pod (steps : List WaitStep) (container : Container) : PodSpec :=
  { PodSpec.ofContainers [container] with initContainers := initContainers steps }

def generate (model : Model) (config : Configuration) : Outcome Descriptor := do
  let port ← model.port PortKey.catalogApi
  let waitImage ← model.waitImage
  let steps ← waitSteps model waitImage
  let image ← model.image ImageKey.catalogApi
  let env ← environment model config
  let replicas ← model.replicaCount ImageKey.catalogApi
  Descriptor.ofResources component [
    owner.deployment config replicas (pod steps (container image port env)),
    owner.internalService config [.tcp "http" port]]

def generator : Generator := ⟨component, generate⟩

end PlatformManifests.CatalogApi
