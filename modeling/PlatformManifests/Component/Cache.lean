import PlatformManifests.Component.Basic

/-!
The cache. It has no route, and its data do not outlive its pod.
-/
namespace PlatformManifests.Cache

def component : String := "cache"

def service : String := "redis"

def owner : Owner := ⟨service, component⟩

/-- The password is filled in from the environment when the container starts. -/
def arguments (port : UInt16) : List String :=
  ["--port", toString port, "--requirepass", "$(REDIS_PASSWORD)", "--appendonly", "no"]

def container (image : String) (port : UInt16) (password : EnvVar) : Container :=
  Container.ofImage service image
    |>.withCommand ["redis-server"]
    |>.withArgs (arguments port)
    |>.withEnv [password]
    |>.withPort "redis" port
    |>.withReadiness ((ReadinessCheck.tcp service port).probe (.after 5))
    |>.withMount (.writable "data" "/data")

def pod (container : Container) : PodSpec :=
  { PodSpec.ofContainers [container] with volumes := [.scratch "data"] }

def generate (model : Model) (config : Configuration) : Outcome Descriptor := do
  let port ← model.port PortKey.redis
  let image ← model.image ImageKey.redis
  let password ← config.secretEnv "REDIS_PASSWORD" SecretId.redis .password
  Descriptor.ofResources component [
    owner.statefulSet config (pod (container image port password)),
    owner.internalService config [.tcp "redis" port]]

def generator : Generator := ⟨component, generate⟩

end PlatformManifests.Cache
