import PlatformManifests.Model.Basic
import PlatformManifests.Model.Keys

/-!
The model that is used when no other is given.
-/
namespace PlatformManifests.Model

def standardImages : Dict String :=
  .ofList [
    (ImageKey.postgres, "docker.io/library/postgres:16.4-alpine"),
    (ImageKey.redis, "docker.io/library/redis:7.4-alpine"),
    (ImageKey.elasticsearch, "docker.elastic.co/elasticsearch/elasticsearch:8.15.3"),
    (ImageKey.minio, "quay.io/minio/minio:RELEASE.2024-10-13T13-34-11Z"),
    (ImageKey.keycloak, "quay.io/keycloak/keycloak:26.0.5"),
    (ImageKey.catalogApi, "ghcr.io/wisefood/catalog-api:0.4.2"),
    (ImageKey.platformInit, "ghcr.io/wisefood/platform-init:0.4.2"),
    (ImageKey.wait, "docker.io/library/busybox:1.36")]

def standardPorts : Dict UInt16 :=
  .ofList [
    (PortKey.postgres, 5432),
    (PortKey.redis, 6379),
    (PortKey.elasticsearch, 9200),
    (PortKey.minioApi, 9000),
    (PortKey.minioConsole, 9001),
    (PortKey.keycloakHttp, 8080),
    (PortKey.keycloakManagement, 9000),
    (PortKey.catalogApi, 8000)]

def standard : Model where
  images := standardImages
  ports := standardPorts
  volumes := .ofList [
    (VolumeKey.postgres, "10Gi"),
    (VolumeKey.elasticsearch, "20Gi"),
    (VolumeKey.minio, "50Gi")]
  replicas := .ofList [(ImageKey.catalogApi, 2), (ImageKey.keycloak, 1)]
  identity := {
    realm := "wisefood"
    clients := .ofList [(ClientKey.catalogApi, "wisefood-api"), (ClientKey.web, "wisefood-web")] }
  database := {
    superuser := ⟨"postgres", "postgres"⟩
    identityProvider := ⟨"keycloak", "keycloak"⟩
    application := ⟨"wisefood", "wisefood"⟩ }
  storage := { buckets := ["public", "uploads", "datasets"], publicBucket := "public" }
  brokers := .ofList [(BrokerKey.events, "kafka-bootstrap.kafka:9092")]
  ingressClass := "nginx"

end PlatformManifests.Model
