import PlatformManifests.Json.Source
import PlatformManifests.Model.Basic
import PlatformManifests.Yaml.Cursor

/-!
Models as documents. A document replaces the whole model, and every record in it is closed.
-/
namespace PlatformManifests

open Reading

variable {σ : Type} [Source σ]

namespace Account

def shape : Shape := ⟨"DbAccount", ["user", "database"], true⟩

def read (source : σ) : Except Fault Account :=
  readRecord shape (fun members =>
    Account.mk <$> members.required "user" readText
      <*> members.required "database" readText) source

def toJson (account : Account) : Json :=
  .listed [("user", some (.str account.user)), ("database", some (.str account.database))]

end Account

namespace Accounts

def shape : Shape := ⟨"DatabaseModel", ["superuser", "identityProvider", "application"], true⟩

def read (source : σ) : Except Fault Accounts :=
  readRecord shape (fun members =>
    Accounts.mk <$> members.required "superuser" Account.read
      <*> members.required "identityProvider" Account.read
      <*> members.required "application" Account.read) source

def toJson (accounts : Accounts) : Json :=
  .listed [
    ("superuser", some accounts.superuser.toJson),
    ("identityProvider", some accounts.identityProvider.toJson),
    ("application", some accounts.application.toJson)]

end Accounts

namespace IdentitySection

def shape : Shape := ⟨"IdentityModel", ["realm", "clients"], true⟩

def read (source : σ) : Except Fault IdentitySection :=
  readRecord shape (fun members =>
    IdentitySection.mk <$> members.required "realm" readText
      <*> members.required "clients" readTextDict) source

def toJson (identity : IdentitySection) : Json :=
  .listed [("realm", some (.str identity.realm)), ("clients", some (.textDict identity.clients))]

end IdentitySection

namespace StorageSection

def shape : Shape := ⟨"StorageModel", ["buckets", "publicBucket"], true⟩

def read (source : σ) : Except Fault StorageSection :=
  readRecord shape (fun members =>
    StorageSection.mk <$> members.required "buckets" readTexts
      <*> members.required "publicBucket" readText) source

def toJson (storage : StorageSection) : Json :=
  .listed [
    ("buckets", some (.texts storage.buckets)),
    ("publicBucket", some (.str storage.publicBucket))]

end StorageSection

def portsToJson (ports : Dict UInt16) : Json :=
  .object (ports.map fun port => Json.int port.toNat).entries

def countsToJson (counts : Dict UInt32) : Json :=
  .object (counts.map fun count => Json.int count.toNat).entries

namespace Model

def shape : Shape :=
  ⟨"PlatformModel", ["images", "ports", "volumes", "replicas", "identity", "database", "storage",
    "brokers", "ingressClass"], true⟩

def read (source : σ) : Except Fault Model :=
  readRecord shape (fun members =>
    Model.mk <$> members.required "images" readTextDict
      <*> members.required "ports" (readDict readPort)
      <*> members.required "volumes" readTextDict
      <*> members.required "replicas" (readDict readCount)
      <*> members.required "identity" IdentitySection.read
      <*> members.required "database" Accounts.read
      <*> members.required "storage" StorageSection.read
      <*> members.required "brokers" readTextDict
      <*> members.required "ingressClass" readText) source

/-- The members in the order of their declaration. -/
def toJson (model : Model) : Json :=
  .listed [
    ("images", some (.textDict model.images)),
    ("ports", some (portsToJson model.ports)),
    ("volumes", some (.textDict model.volumes)),
    ("replicas", some (countsToJson model.replicas)),
    ("identity", some model.identity.toJson),
    ("database", some model.database.toJson),
    ("storage", some model.storage.toJson),
    ("brokers", some (.textDict model.brokers)),
    ("ingressClass", some (.str model.ingressClass))]

/-- Reads and validates a model. -/
def ofYaml (document : Yaml.Document) : Outcome Model := do
  let model ← (Yaml.Cursor.readDocument read document).mapError fun fault =>
    .serialization fault.message none
  model.validate
  .ok model

end Model

end PlatformManifests
