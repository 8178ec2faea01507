import PlatformManifests.Manifest.Metadata
import PlatformManifests.Manifest.Probe

/-!
Containers: image, command, environment, ports, probes and mounted volumes.
-/
namespace PlatformManifests

open Reading

/-! ### Environment variables -/

/-- One value of a secret. -/
structure SecretKey where
  name : String
  key : String
deriving DecidableEq

namespace SecretKey

def shape : Shape := ⟨"SecretKeySelector", ["name", "key"], false⟩

def read (json : Json) : Except Fault SecretKey :=
  readRecord shape (fun members =>
    SecretKey.mk <$> members.required "name" readText <*> members.required "key" readText) json

def toJson (secret : SecretKey) : Json :=
  .record [("name", some (.str secret.name)), ("key", some (.str secret.key))]

end SecretKey

structure EnvSource where
  secretKeyRef : SecretKey
deriving DecidableEq

namespace EnvSource

def shape : Shape := ⟨"EnvVarSource", ["secretKeyRef"], false⟩

def read (json : Json) : Except Fault EnvSource :=
  readRecord shape (fun members =>
    EnvSource.mk <$> members.required "secretKeyRef" SecretKey.read) json

def toJson (source : EnvSource) : Json :=
  .record [("secretKeyRef", some source.secretKeyRef.toJson)]

end EnvSource

/-- A variable with a literal value, or with one that is looked up when the container starts. -/
structure EnvVar where
  name : String
  value : Option String
  valueFrom : Option EnvSource
deriving DecidableEq

namespace EnvVar

def literal (name value : String) : EnvVar := ⟨name, some value, none⟩

def ofSource (name : String) (source : EnvSource) : EnvVar := ⟨name, none, some source⟩

def shape : Shape := ⟨"EnvVar", ["name", "value", "valueFrom"], false⟩

def read (json : Json) : Except Fault EnvVar :=
  readRecord shape (fun members =>
    EnvVar.mk <$> members.required "name" readText
      <*> members.optional "value" readText
      <*> members.optional "valueFrom" EnvSource.read) json

def toJson (env : EnvVar) : Json :=
  .record [
    ("name", some (.str env.name)),
    ("value", env.value.map .str),
    ("valueFrom", env.valueFrom.map EnvSource.toJson)]

end EnvVar

/-! ### Ports and mounts -/

structure ContainerPort where
  name : Option String
  containerPort : UInt16
  protocol : Option String
deriving DecidableEq

namespace ContainerPort

def shape : Shape := ⟨"ContainerPort", ["name", "containerPort", "protocol"], false⟩

def read (json : Json) : Except Fault ContainerPort :=
  readRecord shape (fun members =>
    ContainerPort.mk <$> members.optional "name" readText
      <*> members.required "containerPort" readPort
      <*> members.optional "protocol" readText) json

def toJson (port : ContainerPort) : Json :=
  .record [
    ("name", port.name.map .str),
    ("containerPort", some (.int port.containerPort.toNat)),
    ("protocol", port.protocol.map .str)]

end ContainerPort

structure VolumeMount where
  name : String
  mountPath : String
  readOnly : Option Bool
deriving DecidableEq

namespace VolumeMount

def writable (name mountPath : String) : VolumeMount := ⟨name, mountPath, none⟩

def fixed (name mountPath : String) : VolumeMount := ⟨name, mountPath, some true⟩

def shape : Shape := ⟨"VolumeMount", ["name", "mountPath", "readOnly"], false⟩

def read (json : Json) : Except Fault VolumeMount :=
  readRecord shape (fun members =>
    VolumeMount.mk <$> members.required "name" readText
      <*> members.required "mountPath" readText
      <*> members.optional "readOnly" readBoolean) json

def toJson (mount : VolumeMount) : Json :=
  .record [
    ("name", some (.str mount.name)),
    ("mountPath", some (.str mount.mountPath)),
    ("readOnly", mount.readOnly.map .bool)]

end VolumeMount

/-! ### Containers -/

structure Container where
  name : String
  image : String
  command : Option (List String)
  args : Option (List String)
  env : List EnvVar
  ports : List ContainerPort
  readinessProbe : Option Probe
  livenessProbe : Option Probe
  volumeMounts : List VolumeMount
deriving DecidableEq

namespace Container

def ofImage (name image : String) : Container := ⟨name, image, none, none, [], [], none, none, []⟩

def withCommand (container : Container) (command : List String) : Container :=
  { container with command := some command }

def withArgs (container : Container) (args : List String) : Container :=
  { container with args := some args }

def withEnv (container : Container) (env : List EnvVar) : Container :=
  { container with env := container.env ++ env }

/-- Exposes a named TCP port. -/
def withPort (container : Container) (name : String) (port : UInt16) : Container :=
  { container with ports := container.ports ++ [⟨some name, port, some "TCP"⟩] }

def withReadiness (container : Container) (probe : Probe) : Container :=
  { container with readinessProbe := some probe }

def withLiveness (container : Container) (probe : Probe) : Container :=
  { container with livenessProbe := some probe }

def withMount (container : Container) (mount : VolumeMount) : Container :=
  { container with volumeMounts := container.volumeMounts ++ [mount] }

def shape : Shape :=
  ⟨"Container", ["name", "image", "command", "args", "env", "ports", "readinessProbe",
    "livenessProbe", "volumeMounts"], false⟩

def read (json : Json) : Except Fault Container :=
  readRecord shape (fun members =>
    Container.mk <$> members.required "name" readText
      <*> members.required "image" readText
      <*> members.optional "command" readTexts
      <*> members.optional "args" readTexts
      <*> members.withDefault "env" (readList EnvVar.read) []
      <*> members.withDefault "ports" (readList ContainerPort.read) []
      <*> members.optional "readinessProbe" Probe.read
      <*> members.optional "livenessProbe" Probe.read
      <*> members.withDefault "volumeMounts" (readList VolumeMount.read) []) json

def toJson (container : Container) : Json :=
  .record [
    ("name", some (.str container.name)),
    ("image", some (.str container.image)),
    ("command", container.command.map .texts),
    ("args", container.args.map .texts),
    ("env", writtenList EnvVar.toJson container.env),
    ("ports", writtenList ContainerPort.toJson container.ports),
    ("readinessProbe", container.readinessProbe.map Probe.toJson),
    ("livenessProbe", container.livenessProbe.map Probe.toJson),
    ("volumeMounts", writtenList VolumeMount.toJson container.volumeMounts)]

end Container

end PlatformManifests
