import PlatformManifests.Component.Basic

/-!
The database. On its first start it runs a script that creates the accounts of the identity
provider and of the application; their passwords come from secrets.
-/
namespace PlatformManifests.Database

def component : String := "database"

def service : String := "postgres"

def owner : Owner := ⟨service, component⟩

def scriptsName : String := "postgres-init"

def claimName : String := "postgres-data"

def dataDirectory : String := "/var/lib/postgresql/data"

def scriptFile : String := "10-create-accounts.sh"

/-- Creates two accounts. Values are passed as variables, so that a quote in a password is data. -/
def createAccounts : String :=
  String.intercalate "\n" [
    "#!/bin/sh",
    "set -eu",
    "",
    "# Values go through psql variables so quotes in a password stay data",
    "create_account() \x7b",
    "  psql -v ON_ERROR_STOP=1 -v user=\"$1\" -v pw=\"$2\" -v db=\"$3\" \\",
    "    --username \"$POSTGRES_USER\" --dbname \"$POSTGRES_DB\" <<-'EOSQL'",
    "\tCREATE USER :\"user\" WITH PASSWORD :'pw';",
    "\tCREATE DATABASE :\"db\" OWNER :\"user\";",
    "\tGRANT ALL PRIVILEGES ON DATABASE :\"db\" TO :\"user\";",
    "EOSQL",
    "\x7d",
    "",
    "create_account \"$IDENTITY_DB_USER\" \"$IDENTITY_DB_PASSWORD\" \"$IDENTITY_DB_NAME\"",
    "create_account \"$APP_DB_USER\" \"$APP_DB_PASSWORD\" \"$APP_DB_NAME\"",
    ""]

/-- Asks the server at a host whether it accepts connections. -/
def readiness (model : Model) (host : String) : Outcome ReadinessCheck := do
  let port ← model.port PortKey.postgres
  let account := model.database.superuser
  .ok (.exec ["pg_isready", "-h", host, "-p", toString port, "-U", account.user,
    "-d", account.database])

/-- Waits until the database accepts connections. -/
def waitStep (model : Model) : Outcome WaitStep := do
  let check ← readiness model service
  let image ← model.image ImageKey.postgres
  .ok (.ofCheck service check image)

def environment (model : Model) (config : Configuration) : Outcome (List EnvVar) := do
  let accounts := model.database
  let password ← config.secretEnv "POSTGRES_PASSWORD" SecretId.postgresSuperuser .password
  let identity ← config.secretEnv "IDENTITY_DB_PASSWORD" SecretId.postgresIdentity .password
  let application ← config.secretEnv "APP_DB_PASSWORD" SecretId.postgresApplication .password
  .ok [
    .literal "POSTGRES_USER" accounts.superuser.user,
    .literal "POSTGRES_DB" accounts.superuser.database,
    password,
    .literal "PGDATA" (dataDirectory ++ "/pgdata"),
    .literal "IDENTITY_DB_USER" accounts.identityProvider.user,
    .literal "IDENTITY_DB_NAME" accounts.identityProvider.database,
    identity,
    .literal "APP_DB_USER" accounts.application.user,
    .literal "APP_DB_NAME" accounts.application.database,
    application]

def container (image : String) (port : UInt16) (check : ReadinessCheck) (env : List EnvVar) :
    Container :=
  Container.ofImage service image
    |>.withEnv env
    |>.withPort "postgres" port
    |>.withReadiness (check.probe (.after 5))
    |>.withLiveness (check.probe (.after 30))
    |>.withMount (.writable "data" dataDirectory)
    |>.withMount (.fixed "init" "/docker-entrypoint-initdb.d")

def pod (container : Container) : PodSpec :=
  { PodSpec.ofContainers [container] with
    volumes := [.ofClaim "data" claimName, .ofConfigMap "init" scriptsName] }

def scripts (config : Configuration) : Resource :=
  .configMap (.ofBody (owner.metadata config scriptsName) ⟨.ofList [(scriptFile, createAccounts)]⟩)

def generate (model : Model) (config : Configuration) : Outcome Descriptor := do
  let port ← model.port PortKey.postgres
  let env ← environment model config
  let check ← readiness model "127.0.0.1"
  let image ← model.image ImageKey.postgres
  let size ← model.volumeSize VolumeKey.postgres
  Descriptor.ofResources component [
    owner.statefulSet config (pod (container image port check env)),
    owner.internalService config [.tcp "postgres" port],
    owner.volumeClaim config claimName size,
    scripts config]

def generator : Generator := ⟨component, generate⟩

end PlatformManifests.Database
