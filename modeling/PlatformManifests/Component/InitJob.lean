import PlatformManifests.Component.IdentityProvider
import PlatformManifests.Component.ObjectStore

/-!
The job that sets the platform up: realm, clients, mail settings and buckets. It notes what it has
done in a config map, and that is all that it may touch in the cluster.
-/
namespace PlatformManifests.InitJob

def component : String := "init-job"

def name : String := "platform-init"

def owner : Owner := ⟨name, component⟩

def stateConfigMap : String := "platform-init-state"

def backoffLimit : UInt32 := 4

/-! ### Access -/

def accessRules : List PolicyRule :=
  [⟨[""], ["configmaps"], ["get", "create", "update", "patch"]⟩]

/-- The lists of a rule, and whether each may be empty. -/
def ruleLists (rule : PolicyRule) : List (String × List String × Bool) :=
  [("apiGroups", rule.apiGroups, true), ("resources", rule.resources, false),
    ("verbs", rule.verbs, false)]

def hasWildcard (values : List String) : Bool := values.any fun value => value.toList.contains '*'

/-- What is wrong with a list of a rule, if anything is. -/
def listProblem? (values : List String) (mayBeEmpty : Bool) : Option String :=
  if hasWildcard values then some "wildcards are not allowed, list each entry explicitly"
  else if values.isEmpty && !mayBeEmpty then some "must not be empty"
  else none

/-- The first list of a rule with a problem, and the problem. -/
def ruleProblem? (rule : PolicyRule) : Option (String × String) :=
  (ruleLists rule).findSome? fun (field, values, mayBeEmpty) =>
    (listProblem? values mayBeEmpty).map fun problem => (field, problem)

def checkRules (role : String) (index : Nat) : List PolicyRule → Outcome Unit
  | [] => .ok ()
  | rule :: rest =>
    match ruleProblem? rule with
    | some (field, problem) =>
      .error (.invalidConfiguration
        ("role/" ++ role ++ ".rules[" ++ toString index ++ "]." ++ field) problem)
    | none => checkRules role (index + 1) rest

/-- A role that grants nothing but what its rules list. -/
def checkedRole (metadata : Metadata) (rules : List PolicyRule) : Outcome (Manifest Role) := do
  checkRules metadata.name 0 rules
  .ok (.ofBody metadata ⟨rules⟩)

/-! ### Environment -/

def identityEnvironment (model : Model) (config : Configuration) : Outcome (List EnvVar) := do
  let url ← IdentityProvider.internalUrl model
  let user ← config.secretEnv "KEYCLOAK_ADMIN_USER" SecretId.keycloakAdmin .username
  let password ← config.secretEnv "KEYCLOAK_ADMIN_PASSWORD" SecretId.keycloakAdmin .password
  let apiClient ← model.clientId ClientKey.catalogApi
  let secret ← config.secretEnv "API_CLIENT_SECRET" SecretId.catalogApiClient .clientSecret
  let webClient ← model.clientId ClientKey.web
  .ok [
    .literal "KEYCLOAK_URL" url,
    user,
    password,
    .literal "REALM" model.identity.realm,
    .literal "API_CLIENT_ID" apiClient,
    secret,
    .literal "WEB_CLIENT_ID" webClient,
    .literal "WEB_REDIRECT_URI" (config.externalUrl "" ++ "/*"),
    .literal "WEB_ORIGIN" (config.externalUrl "")]

def adminEnvironment (admin : Contact) : List EnvVar :=
  .literal "ADMIN_EMAIL" admin.email :: (admin.name.map (EnvVar.literal "ADMIN_NAME")).toList

def mailEnvironment (config : Configuration) : Outcome (List EnvVar) :=
  match config.mail with
  | none => .ok []
  | some mail => do
    let password ←
      match mail.passwordSecret with
      | none => .ok []
      | some identifier =>
        (config.secretEnv "SMTP_PASSWORD" identifier .password).map fun password => [password]
    .ok ([
      .literal "SMTP_HOST" mail.host,
      .literal "SMTP_PORT" (toString mail.port),
      .literal "SMTP_FROM" mail.sender,
      .literal "SMTP_STARTTLS" (toString mail.starttls)]
      ++ (mail.user.map (EnvVar.literal "SMTP_USER")).toList ++ password)

def storageEnvironment (model : Model) (config : Configuration) : Outcome (List EnvVar) := do
  let port ← model.port PortKey.minioApi
  let user ← config.secretEnv "MINIO_ROOT_USER" SecretId.minioRoot .username
  let password ← config.secretEnv "MINIO_ROOT_PASSWORD" SecretId.minioRoot .password
  .ok [
    .literal "MINIO_ENDPOINT" ("http://" ++ ObjectStore.service ++ ":" ++ toString port),
    user,
    password,
    .literal "BUCKETS" (String.intercalate "," model.storage.buckets),
    .literal "PUBLIC_BUCKET" model.storage.publicBucket,
    .literal "STATE_CONFIGMAP" stateConfigMap]

def environment (model : Model) (config : Configuration) : Outcome (List EnvVar) := do
  let identity ← identityEnvironment model config
  let mail ← mailEnvironment config
  let storage ← storageEnvironment model config
  .ok (identity ++ adminEnvironment config.admin ++ mail ++ storage)

/-! ### Resources -/

/-- Waits for the database and for the identity provider. -/
def waitSteps (model : Model) : Outcome (List WaitStep) := do
  let database ← Database.waitStep model
  let check ← IdentityProvider.healthCheck model
  let image ← model.waitImage
  .ok [database, .ofCheck IdentityProvider.service check image]

def pod (steps : List WaitStep) (container : Container) : PodSpec :=
  { PodSpec.ofContainers [container] with
    serviceAccountName := some name
    automountServiceAccountToken := some true
    initContainers := initContainers steps
    restartPolicy := some "Never" }

def generate (model : Model) (config : Configuration) : Outcome Descriptor := do
  let steps ← waitSteps model
  let image ← model.image ImageKey.platformInit
  let env ← environment model config
  let container := (Container.ofImage name image).withEnv env
  let metadata := owner.metadata config name
  let role ← checkedRole metadata accessRules
  Descriptor.ofResources component [
    .serviceAccount (.ofBody metadata ⟨none⟩),
    .role role,
    .roleBinding (bindRole metadata name name),
    .job (.ofBody metadata ⟨backoffLimit, owner.podTemplate (pod steps container)⟩)]

def generator : Generator := ⟨component, generate⟩

end PlatformManifests.InitJob
