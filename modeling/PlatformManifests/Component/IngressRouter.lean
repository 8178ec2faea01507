import PlatformManifests.Component.CatalogApi

/-!
The route of the domain itself, and under https the certificate that all routes share.
-/
namespace PlatformManifests.IngressRouter

def component : String := "ingress-router"

def routeName : String := "platform"

def owner : Owner := ⟨routeName, component⟩

/-- The API first, then the public bucket. -/
def rules (model : Model) : Outcome (List PathRule) := do
  let apiPort ← model.port PortKey.catalogApi
  let storagePort ← model.port PortKey.minioApi
  .ok [
    .ofPrefix CatalogApi.pathPrefix CatalogApi.service apiPort,
    .ofPrefix ("/" ++ model.storage.publicBucket) ObjectStore.service storagePort]

def certificate (config : Configuration) : Resource :=
  .certificate (.ofBody (owner.metadata config config.tlsSecretName)
    ⟨config.tlsSecretName, config.hosts,
      ⟨config.clusterIssuer, "ClusterIssuer", "cert-manager.io"⟩⟩)

def certificates (config : Configuration) : List Resource :=
  if config.scheme.isTls then [certificate config] else []

def generate (model : Model) (config : Configuration) : Outcome Descriptor := do
  let rules ← rules model
  let route ← owner.route model config routeName ∅ (config.host "") rules
  Descriptor.ofResources component (route :: certificates config)

def generator : Generator := ⟨component, generate⟩

end PlatformManifests.IngressRouter
