import PlatformManifests.Component.Basic

/-!
The object store. One service has two ports, and each has a host of its own; the public bucket is
also reached through the route of the domain.
-/
namespace PlatformManifests.ObjectStore

def component : String := "object-store"

def service : String := "minio"

def owner : Owner := ⟨service, component⟩

def apiRoute : String := "minio"

def consoleRoute : String := "minio-console"

def claimName : String := "minio-data"

def dataDirectory : String := "/data"

def environment (config : Configuration) : Outcome (List EnvVar) := do
  let user ← config.secretEnv "MINIO_ROOT_USER" SecretId.minioRoot .username
  let password ← config.secretEnv "MINIO_ROOT_PASSWORD" SecretId.minioRoot .password
  .ok [
    user,
    password,
    .literal "MINIO_SERVER_URL" (config.externalUrl config.subdomains.storage),
    .literal "MINIO_BROWSER_REDIRECT_URL" (config.externalUrl config.subdomains.storageConsole)]

def container (image : String) (apiPort consolePort : UInt16) (env : List EnvVar) : Container :=
  Container.ofImage service image
    |>.withArgs ["server", dataDirectory, "--address", ":" ++ toString apiPort,
      "--console-address", ":" ++ toString consolePort]
    |>.withEnv env
    |>.withPort "api" apiPort
    |>.withPort "console" consolePort
    |>.withReadiness
      ((ReadinessCheck.http service apiPort "/minio/health/ready").probe (.after 10))
    |>.withMount (.writable "data" dataDirectory)

def pod (container : Container) : PodSpec :=
  { PodSpec.ofContainers [container] with volumes := [.ofClaim "data" claimName] }

/-- Uploads may be of any size. -/
def apiAnnotations : Dict String := .ofList [(AnnotationKey.bodySize, "0")]

def generate (model : Model) (config : Configuration) : Outcome Descriptor := do
  let apiPort ← model.port PortKey.minioApi
  let consolePort ← model.port PortKey.minioConsole
  let env ← environment config
  let image ← model.image ImageKey.minio
  let api ← owner.route model config apiRoute apiAnnotations
    (config.host config.subdomains.storage) [.ofPrefix "/" service apiPort]
  let console ← owner.route model config consoleRoute ∅
    (config.host config.subdomains.storageConsole) [.ofPrefix "/" service consolePort]
  let size ← model.volumeSize VolumeKey.minio
  Descriptor.ofResources component [
    owner.statefulSet config (pod (container image apiPort consolePort env)),
    owner.internalService config [.tcp "api" apiPort, .tcp "console" consolePort],
    owner.volumeClaim config claimName size,
    api,
    console]

def generator : Generator := ⟨component, generate⟩

end PlatformManifests.ObjectStore
