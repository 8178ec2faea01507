import PlatformManifests.Dict
import PlatformManifests.Error

/-!
What differs between deployments of the platform: the namespace, the hosts, the scheme of external
addresses, and the names under which secrets are stored in the cluster.
-/
namespace PlatformManifests

inductive Scheme where
  | http
  | https
deriving DecidableEq, Repr

namespace Scheme

def name : Scheme → String
  | .http => "http"
  | .https => "https"

def isTls : Scheme → Bool
  | .http => false
  | .https => true

def ofName (name : String) : Outcome Scheme :=
  if name = "http" then .ok .http
  else if name = "https" then .ok .https
  else .error (.invalidRoute "scheme"
    ("unsupported scheme '" ++ name ++ "', expected http or https"))

end Scheme

/-- The labels in front of the domain, one for each service with a host of its own. -/
structure Subdomains where
  identity : String
  storage : String
  storageConsole : String
  search : String
deriving DecidableEq

def Subdomains.standard : Subdomains := ⟨"auth", "s3", "minio", "search"⟩

structure Contact where
  email : String
  name : Option String
deriving DecidableEq

/-- The outgoing mail server. -/
structure MailRelay where
  host : String
  port : UInt16
  sender : String
  user : Option String
  /-- The identifier of the secret that holds the password of the user. -/
  passwordSecret : Option String
  starttls : Bool
deriving DecidableEq

structure Configuration where
  space : String
  scheme : Scheme
  domain : String
  subdomains : Subdomains
  /-- The name in the cluster of each secret, by the identifier that the platform uses. -/
  secrets : Dict String
  admin : Contact
  mail : Option MailRelay
  storageClass : Option String
  clusterIssuer : String
deriving DecidableEq

def MailRelay.standardPort : UInt16 := 587

def Configuration.standardIssuer : String := "letsencrypt-prod"

namespace Configuration

/-- The host of a subdomain; the empty subdomain is the domain itself. -/
def host (config : Configuration) (subdomain : String) : String :=
  if subdomain.isEmpty then config.domain else subdomain ++ "." ++ config.domain

def externalUrl (config : Configuration) (subdomain : String) : String :=
  config.scheme.name ++ "://" ++ config.host subdomain

/-- The name of the secret that holds the certificate of all routes. -/
def tlsSecretName (config : Configuration) : String := config.space ++ "-tls"

/-- The name in the cluster of the secret with the given identifier. -/
def secretName (config : Configuration) (identifier : String) : Outcome String :=
  match config.secrets.get? identifier with
  | some name => .ok name
  | none => .error (.missingSecretOf identifier)

/-- Every host that the platform serves, the domain itself first. -/
def hosts (config : Configuration) : List String :=
  ["", config.subdomains.identity, config.subdomains.storage, config.subdomains.storageConsole,
    config.subdomains.search].map config.host

end Configuration

end PlatformManifests
