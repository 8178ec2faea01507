import PlatformManifests.Dict
import PlatformManifests.Error

/-!
What all deployments of the platform share: images, ports, volume sizes, replica counts, and the
accounts, clients and buckets that the services use.

The sections with keys are dictionaries. Whoever asks for a key that a section does not have gets
an error with the path of the key.
-/
namespace PlatformManifests

/-- A database user and the database that belongs to it. -/
structure Account where
  user : String
  database : String
deriving DecidableEq

structure Accounts where
  superuser : Account
  identityProvider : Account
  application : Account
deriving DecidableEq

structure IdentitySection where
  realm : String
  clients : Dict String
deriving DecidableEq

structure StorageSection where
  buckets : List String
  publicBucket : String
deriving DecidableEq

structure Model where
  images : Dict String
  ports : Dict UInt16
  volumes : Dict String
  replicas : Dict UInt32
  identity : IdentitySection
  database : Accounts
  storage : StorageSection
  brokers : Dict String
  ingressClass : String
deriving DecidableEq

namespace Model

/-- The entry of a section under a key. -/
def entry {α : Type} (dict : Dict α) (path key : String) : Outcome α :=
  match dict.get? key with
  | some value => .ok value
  | none => .error (.unresolvedFieldAt (path ++ "." ++ key))

def image (model : Model) (key : String) : Outcome String := entry model.images "images" key

def port (model : Model) (key : String) : Outcome UInt16 := entry model.ports "ports" key

def volumeSize (model : Model) (key : String) : Outcome String :=
  entry model.volumes "volumes" key

def replicaCount (model : Model) (key : String) : Outcome UInt32 :=
  entry model.replicas "replicas" key

def clientId (model : Model) (key : String) : Outcome String :=
  entry model.identity.clients "identity.clients" key

def broker (model : Model) (key : String) : Outcome String := entry model.brokers "brokers" key

def withPort (model : Model) (key : String) (port : UInt16) : Model :=
  { model with ports := model.ports.insert key port }

def withImage (model : Model) (key image : String) : Model :=
  { model with images := model.images.insert key image }

def withReplicas (model : Model) (key : String) (count : UInt32) : Model :=
  { model with replicas := model.replicas.insert key count }

/-- The public bucket is one of the buckets, and no port is zero. The first rule that is broken
is reported. -/
def validate (model : Model) : Outcome Unit :=
  if !model.storage.buckets.contains model.storage.publicBucket then
    .error (.invalidConfiguration "model.storage.publicBucket"
      ("public bucket '" ++ model.storage.publicBucket ++ "' is not among the declared buckets"))
  else
    match model.ports.entries.find? fun entry => entry.2 = 0 with
    | some (key, _) => .error (.invalidConfiguration ("model.ports." ++ key) "port must be non-zero")
    | none => .ok ()

end Model

end PlatformManifests
