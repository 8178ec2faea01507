/-!
The keys of the model that the services of the platform use.
-/
namespace PlatformManifests

namespace ImageKey

def postgres : String := "postgres"
def redis : String := "redis"
def elasticsearch : String := "elasticsearch"
def minio : String := "minio"
def keycloak : String := "keycloak"
def catalogApi : String := "catalog-api"
def platformInit : String := "platform-init"
def wait : String := "wait"

end ImageKey

namespace PortKey

def postgres : String := "postgres"
def redis : String := "redis"
def elasticsearch : String := "elasticsearch"
def minioApi : String := "minio-api"
def minioConsole : String := "minio-console"
def keycloakHttp : String := "keycloak-http"
def keycloakManagement : String := "keycloak-management"
def catalogApi : String := "catalog-api"

end PortKey

namespace VolumeKey

def postgres : String := "postgres"
def elasticsearch : String := "elasticsearch"
def minio : String := "minio"

end VolumeKey

namespace ClientKey

def catalogApi : String := "catalog-api"
def web : String := "web"

end ClientKey

namespace BrokerKey

def events : String := "events"

end BrokerKey

end PlatformManifests
