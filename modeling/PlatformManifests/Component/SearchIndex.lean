import PlatformManifests.Component.Basic

/-!
The search index. It answers only to those who log in, so it is probed by connecting to it.
-/
namespace PlatformManifests.SearchIndex

def component : String := "search-index"

def service : String := "elasticsearch"

def owner : Owner := ⟨service, component⟩

/-- The user that the password belongs to. -/
def user : String := "elastic"

def claimName : String := "elasticsearch-data"

def fileGroup : Int64 := 1000

def environment (config : Configuration) (port : UInt16) : Outcome (List EnvVar) := do
  let password ← config.secretEnv "ELASTIC_PASSWORD" SecretId.elastic .password
  .ok [
    .literal "discovery.type" "single-node",
    .literal "http.port" (toString port),
    .literal "xpack.security.enabled" "true",
    .literal "xpack.security.http.ssl.enabled" "false",
    .literal "ES_JAVA_OPTS" "-Xms1g -Xmx1g",
    password]

def container (image : String) (port : UInt16) (env : List EnvVar) : Container :=
  Container.ofImage service image
    |>.withEnv env
    |>.withPort "http" port
    |>.withReadiness ((ReadinessCheck.tcp service port).probe (.after 30))
    |>.withMount (.writable "data" "/usr/share/elasticsearch/data")

def pod (container : Container) : PodSpec :=
  { PodSpec.ofContainers [container] with
    volumes := [.ofClaim "data" claimName]
    securityContext := some ⟨some fileGroup⟩ }

def generate (model : Model) (config : Configuration) : Outcome Descriptor := do
  let port ← model.port PortKey.elasticsearch
  let env ← environment config port
  let image ← model.image ImageKey.elasticsearch
  let route ← owner.route model config service ∅ (config.host config.subdomains.search)
    [.ofPrefix "/" service port]
  let size ← model.volumeSize VolumeKey.elasticsearch
  Descriptor.ofResources component [
    owner.statefulSet config (pod (container image port env)),
    owner.internalService config [.tcp "http" port],
    owner.volumeClaim config claimName size,
    route]

def generator : Generator := ⟨component, generate⟩

end PlatformManifests.SearchIndex
