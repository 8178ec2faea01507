import PlatformManifests.Configuration.Validation
import PlatformManifests.Json.Source
import PlatformManifests.Yaml.Value

/-!
Configurations as documents. Every record is closed: a field that is not known is an error.
-/
namespace PlatformManifests

open Reading

variable {σ : Type} [Source σ]

namespace Scheme

def read (source : σ) : Except Fault Scheme := do
  let name ← readText source
  match ofName name with
  | .ok scheme => .ok scheme
  | .error error => .error (Source.blame source (.refused error.message))

end Scheme

namespace Subdomains

def shape : Shape := ⟨"Subdomains", ["identity", "storage", "storageConsole", "search"], true⟩

def read (source : σ) : Except Fault Subdomains :=
  readRecord shape (fun members =>
    Subdomains.mk <$> members.withDefault "identity" readText standard.identity
      <*> members.withDefault "storage" readText standard.storage
      <*> members.withDefault "storageConsole" readText standard.storageConsole
      <*> members.withDefault "search" readText standard.search) source

def toJson (subdomains : Subdomains) : Json :=
  .listed [
    ("identity", some (.str subdomains.identity)),
    ("storage", some (.str subdomains.storage)),
    ("storageConsole", some (.str subdomains.storageConsole)),
    ("search", some (.str subdomains.search))]

end Subdomains

namespace Contact

def shape : Shape := ⟨"AdminContact", ["email", "name"], true⟩

def read (source : σ) : Except Fault Contact :=
  readRecord shape (fun members =>
    Contact.mk <$> members.required "email" readText <*> members.optional "name" readText) source

def toJson (contact : Contact) : Json :=
  .listed [("email", some (.str contact.email)), ("name", contact.name.map .str)]

end Contact

namespace MailRelay

def shape : Shape :=
  ⟨"SmtpConfig", ["host", "port", "from", "user", "passwordSecret", "starttls"], true⟩

def read (source : σ) : Except Fault MailRelay :=
  readRecord shape (fun members =>
    MailRelay.mk <$> members.required "host" readText
      <*> members.withDefault "port" readPort standardPort
      <*> members.required "from" readText
      <*> members.optional "user" readText
      <*> members.optional "passwordSecret" readText
      <*> members.withDefault "starttls" readBoolean true) source

def toJson (mail : MailRelay) : Json :=
  .listed [
    ("host", some (.str mail.host)),
    ("port", some (.int mail.port.toNat)),
    ("from", some (.str mail.sender)),
    ("user", mail.user.map .str),
    ("passwordSecret", mail.passwordSecret.map .str),
    ("starttls", some (.bool mail.starttls))]

end MailRelay

namespace Configuration

def shape : Shape :=
  ⟨"DeploymentConfig", ["namespace", "scheme", "domain", "subdomains", "secrets", "admin", "smtp",
    "storageClass", "clusterIssuer"], true⟩

def read (source : σ) : Except Fault Configuration :=
  readRecord shape (fun members =>
    Configuration.mk <$> members.required "namespace" readText
      <*> members.required "scheme" Scheme.read
      <*> members.required "domain" readText
      <*> members.withDefault "subdomains" Subdomains.read Subdomains.standard
      <*> members.required "secrets" readTextDict
      <*> members.required "admin" Contact.read
      <*> members.optional "smtp" MailRelay.read
      <*> members.optional "storageClass" readText
      <*> members.withDefault "clusterIssuer" readText standardIssuer) source

/-- The members in the order of their declaration; what is not set is left out. -/
def toJson (config : Configuration) : Json :=
  .listed [
    ("namespace", some (.str config.space)),
    ("scheme", some (.str config.scheme.name)),
    ("domain", some (.str config.domain)),
    ("subdomains", some config.subdomains.toJson),
    ("secrets", some (.textDict config.secrets)),
    ("admin", some config.admin.toJson),
    ("smtp", config.mail.map MailRelay.toJson),
    ("storageClass", config.storageClass.map .str),
    ("clusterIssuer", some (.str config.clusterIssuer))]

def documentError (fault : Fault) : Error := .invalidConfiguration "config" fault.message

/-- A scheme that is not supported is reported before anything else about the data. -/
def checkScheme (value : Yaml.Value) : Outcome Unit :=
  match (value.member? "scheme").bind Yaml.Value.text? with
  | some name => (Scheme.ofName name).map fun _ => ()
  | none => .ok ()

/-- Reads and validates a configuration. -/
def ofYaml (document : Yaml.Document) : Outcome Configuration := do
  let value ← (Yaml.Value.ofDocument document).mapError documentError
  checkScheme value
  let config ← (read value).mapError documentError
  config.validate
  .ok config

end Configuration

end PlatformManifests
