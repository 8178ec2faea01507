import PlatformManifests.Manifest.Basic

/-!
What the cluster shows to the outside: ingresses, which pass requests for a host on to services,
and the certificates for the hosts.
-/
namespace PlatformManifests

open Reading

/-! ### Ingresses -/

structure BackendPort where
  number : UInt16
deriving DecidableEq

namespace BackendPort

def shape : Shape := ⟨"ServiceBackendPort", ["number"], false⟩

def read (json : Json) : Except Fault BackendPort :=
  readRecord shape (fun members => BackendPort.mk <$> members.required "number" readPort) json

def toJson (port : BackendPort) : Json := .record [("number", some (.int port.number.toNat))]

end BackendPort

structure ServiceBackend where
  name : String
  port : BackendPort
deriving DecidableEq

namespace ServiceBackend

def shape : Shape := ⟨"IngressServiceBackend", ["name", "port"], false⟩

def read (json : Json) : Except Fault ServiceBackend :=
  readRecord shape (fun members =>
    ServiceBackend.mk <$> members.required "name" readText
      <*> members.required "port" BackendPort.read) json

def toJson (backend : ServiceBackend) : Json :=
  .record [("name", some (.str backend.name)), ("port", some backend.port.toJson)]

end ServiceBackend

structure Backend where
  service : ServiceBackend
deriving DecidableEq

namespace Backend

def shape : Shape := ⟨"IngressBackend", ["service"], false⟩

def read (json : Json) : Except Fault Backend :=
  readRecord shape (fun members => Backend.mk <$> members.required "service" ServiceBackend.read)
    json

def toJson (backend : Backend) : Json := .record [("service", some backend.service.toJson)]

end Backend

structure IngressPath where
  path : String
  pathType : String
  backend : Backend
deriving DecidableEq

namespace IngressPath

def shape : Shape := ⟨"HttpIngressPath", ["path", "pathType", "backend"], false⟩

def read (json : Json) : Except Fault IngressPath :=
  readRecord shape (fun members =>
    IngressPath.mk <$> members.required "path" readText
      <*> members.required "pathType" readText
      <*> members.required "backend" Backend.read) json

def toJson (path : IngressPath) : Json :=
  .record [
    ("path", some (.str path.path)),
    ("pathType", some (.str path.pathType)),
    ("backend", some path.backend.toJson)]

end IngressPath

/-- The paths of a host; the first that matches a request takes it. -/
structure IngressPaths where
  paths : List IngressPath
deriving DecidableEq

namespace IngressPaths

def shape : Shape := ⟨"HttpIngressRuleValue", ["paths"], false⟩

def read (json : Json) : Except Fault IngressPaths :=
  readRecord shape (fun members =>
    IngressPaths.mk <$> members.required "paths" (readList IngressPath.read)) json

def toJson (paths : IngressPaths) : Json :=
  .record [("paths", some (.array (paths.paths.map IngressPath.toJson)))]

end IngressPaths

structure IngressRule where
  host : String
  http : IngressPaths
deriving DecidableEq

namespace IngressRule

def shape : Shape := ⟨"IngressRule", ["host", "http"], false⟩

def read (json : Json) : Except Fault IngressRule :=
  readRecord shape (fun members =>
    IngressRule.mk <$> members.required "host" readText
      <*> members.required "http" IngressPaths.read) json

def toJson (rule : IngressRule) : Json :=
  .record [("host", some (.str rule.host)), ("http", some rule.http.toJson)]

end IngressRule

structure IngressTls where
  hosts : List String
  secretName : String
deriving DecidableEq

namespace IngressTls

def shape : Shape := ⟨"IngressTls", ["hosts", "secretName"], false⟩

def read (json : Json) : Except Fault IngressTls :=
  readRecord shape (fun members =>
    IngressTls.mk <$> members.required "hosts" readTexts
      <*> members.required "secretName" readText) json

def toJson (tls : IngressTls) : Json :=
  .record [("hosts", some (.texts tls.hosts)), ("secretName", some (.str tls.secretName))]

end IngressTls

structure Ingress where
  ingressClassName : String
  tls : List IngressTls
  rules : List IngressRule
deriving DecidableEq

namespace Ingress

def shape : Shape := ⟨"IngressSpec", ["ingressClassName", "tls", "rules"], false⟩

def read (json : Json) : Except Fault Ingress :=
  readRecord shape (fun members =>
    Ingress.mk <$> members.required "ingressClassName" readText
      <*> members.withDefault "tls" (readList IngressTls.read) []
      <*> members.required "rules" (readList IngressRule.read)) json

def toJson (ingress : Ingress) : Json :=
  .record [
    ("ingressClassName", some (.str ingress.ingressClassName)),
    ("tls", writtenList IngressTls.toJson ingress.tls),
    ("rules", some (.array (ingress.rules.map IngressRule.toJson)))]

end Ingress

instance : Body Ingress where
  kind := .ingress
  fields := ["spec"]
  read members := members.required "spec" Ingress.read
  write body := [("spec", some body.toJson)]

/-! ### Certificates -/

structure IssuerRef where
  name : String
  kind : String
  group : String
deriving DecidableEq

namespace IssuerRef

def shape : Shape := ⟨"IssuerRef", ["name", "kind", "group"], false⟩

def read (json : Json) : Except Fault IssuerRef :=
  readRecord shape (fun members =>
    IssuerRef.mk <$> members.required "name" readText
      <*> members.required "kind" readText
      <*> members.required "group" readText) json

def toJson (ref : IssuerRef) : Json :=
  .record [
    ("name", some (.str ref.name)),
    ("kind", some (.str ref.kind)),
    ("group", some (.str ref.group))]

end IssuerRef

structure Certificate where
  secretName : String
  dnsNames : List String
  issuerRef : IssuerRef
deriving DecidableEq

namespace Certificate

def shape : Shape := ⟨"CertificateSpec", ["secretName", "dnsNames", "issuerRef"], false⟩

def read (json : Json) : Except Fault Certificate :=
  readRecord shape (fun members =>
    Certificate.mk <$> members.required "secretName" readText
      <*> members.required "dnsNames" readTexts
      <*> members.required "issuerRef" IssuerRef.read) json

def toJson (certificate : Certificate) : Json :=
  .record [
    ("secretName", some (.str certificate.secretName)),
    ("dnsNames", some (.texts certificate.dnsNames)),
    ("issuerRef", some certificate.issuerRef.toJson)]

end Certificate

instance : Body Certificate where
  kind := .certificate
  fields := ["spec"]
  read members := members.required "spec" Certificate.read
  write body := [("spec", some body.toJson)]

end PlatformManifests
