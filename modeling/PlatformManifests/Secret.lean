import PlatformManifests.Configuration.Basic
import PlatformManifests.Manifest.Container

/-!
Secrets. The platform knows a secret by an identifier, the configuration gives its name in the
cluster, and manifests refer to it by that name. The value never occurs.
-/
namespace PlatformManifests

namespace SecretId

def postgresSuperuser : String := "postgres-superuser"

def postgresIdentity : String := "postgres-identity"

def postgresApplication : String := "postgres-application"

def redis : String := "redis"

def elastic : String := "elastic"

def minioRoot : String := "minio-root"

def keycloakAdmin : String := "keycloak-admin"

def catalogApiClient : String := "catalog-api-client"

end SecretId

/-- The keys under which a secret holds its values. -/
inductive SecretField where
  | username
  | password
  | clientSecret
deriving DecidableEq, Repr

def SecretField.key : SecretField → String
  | .username => "username"
  | .password => "password"
  | .clientSecret => "client-secret"

namespace Configuration

/-- The place where a value of a secret is found. -/
def secretSource (config : Configuration) (identifier key : String) : Outcome EnvSource := do
  let name ← config.secretName identifier
  .ok ⟨⟨name, key⟩⟩

/-- A variable that takes its value from a secret. -/
def secretVariable (config : Configuration) (name identifier key : String) : Outcome EnvVar := do
  let source ← config.secretSource identifier key
  .ok (.ofSource name source)

def secretEnv (config : Configuration) (name identifier : String) (field : SecretField) :
    Outcome EnvVar :=
  config.secretVariable name identifier field.key

end Configuration

end PlatformManifests
