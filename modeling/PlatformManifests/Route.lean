import PlatformManifests.Configuration.Basic
import PlatformManifests.Manifest.Ingress
import PlatformManifests.Model.Basic

/-!
Routes: the requests for a host are passed on to services by their paths. Under https a route uses
the certificate of the deployment, and plain requests are redirected.
-/
namespace PlatformManifests

namespace AnnotationKey

def sslRedirect : String := "nginx.ingress.kubernetes.io/ssl-redirect"

def forceSslRedirect : String := "nginx.ingress.kubernetes.io/force-ssl-redirect"

def bodySize : String := "nginx.ingress.kubernetes.io/proxy-body-size"

end AnnotationKey

inductive PathMatch where
  | pathPrefix
  | exact
  | implementationSpecific
deriving DecidableEq, Repr

namespace PathMatch

def name : PathMatch → String
  | .pathPrefix => "Prefix"
  | .exact => "Exact"
  | .implementationSpecific => "ImplementationSpecific"

def ofName? (name : String) : Option PathMatch :=
  [.pathPrefix, .exact, .implementationSpecific].find? fun kind => kind.name = name

end PathMatch

structure PathRule where
  pattern : String
  matching : PathMatch
  service : String
  port : UInt16
deriving DecidableEq

namespace PathRule

def ofPrefix (pattern service : String) (port : UInt16) : PathRule :=
  ⟨pattern, .pathPrefix, service, port⟩

/-- What is wrong with a rule, if anything is. -/
def problem? (rule : PathRule) : Option String :=
  if rule.pattern.toList.head? ≠ some '/' then
    some ("pattern '" ++ rule.pattern ++ "' must start with '/'")
  else if rule.service.isEmpty then some "empty target service"
  else if rule.port = 0 then some "target port must be non-zero"
  else none

def toPath (rule : PathRule) : IngressPath :=
  ⟨rule.pattern, rule.matching.name, ⟨⟨rule.service, ⟨rule.port⟩⟩⟩⟩

end PathRule

namespace Route

def checkRules (name : String) (index : Nat) : List PathRule → Outcome Unit
  | [] => .ok ()
  | rule :: rest =>
    match rule.problem? with
    | some problem =>
      .error (.invalidRoute name ("rule " ++ toString index ++ ": " ++ problem))
    | none => checkRules name (index + 1) rest

def check (name host : String) (rules : List PathRule) : Outcome Unit :=
  if host.isEmpty then .error (.invalidRoute name "empty host")
  else if rules.isEmpty then .error (.invalidRoute name "no path rules")
  else checkRules name 0 rules

/-- The annotations of a route: those of the caller, and under https the redirects. -/
def metadata (config : Configuration) (name : String) (annotations : Dict String) : Metadata :=
  let plain := { Metadata.ofName name config.space with annotations := annotations }
  if config.scheme.isTls then
    (plain.annotated AnnotationKey.sslRedirect "true").annotated
      AnnotationKey.forceSslRedirect "true"
  else plain

def tls (config : Configuration) (host : String) : List IngressTls :=
  if config.scheme.isTls then [⟨[host], config.tlsSecretName⟩] else []

/-- The route for a host; its rules keep their order. -/
def build (model : Model) (config : Configuration) (name : String) (annotations : Dict String)
    (host : String) (rules : List PathRule) : Outcome (Manifest Ingress) := do
  check name host rules
  .ok (.ofBody (metadata config name annotations)
    ⟨model.ingressClass, tls config host, [⟨host, ⟨rules.map PathRule.toPath⟩⟩]⟩)

end Route

end PlatformManifests
