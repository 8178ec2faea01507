import PlatformManifests.Json.Source

/-!
Probes: what the cluster asks a container to find out whether it is ready or alive, and when.
-/
namespace PlatformManifests

open Reading

structure TcpAction where
  port : UInt16
deriving DecidableEq

namespace TcpAction

def shape : Shape := ⟨"TcpSocketAction", ["port"], false⟩

def read (json : Json) : Except Fault TcpAction :=
  readRecord shape (fun members => TcpAction.mk <$> members.required "port" readPort) json

def toJson (action : TcpAction) : Json := .record [("port", some (.int action.port.toNat))]

end TcpAction

structure HttpAction where
  path : String
  port : UInt16
deriving DecidableEq

namespace HttpAction

def shape : Shape := ⟨"HttpGetAction", ["path", "port"], false⟩

def read (json : Json) : Except Fault HttpAction :=
  readRecord shape (fun members =>
    HttpAction.mk <$> members.required "path" readText <*> members.required "port" readPort) json

def toJson (action : HttpAction) : Json :=
  .record [("path", some (.str action.path)), ("port", some (.int action.port.toNat))]

end HttpAction

structure ExecAction where
  command : List String
deriving DecidableEq

namespace ExecAction

def shape : Shape := ⟨"ExecAction", ["command"], false⟩

def read (json : Json) : Except Fault ExecAction :=
  readRecord shape (fun members => ExecAction.mk <$> members.required "command" readTexts) json

def toJson (action : ExecAction) : Json := .record [("command", some (.texts action.command))]

end ExecAction

structure Probe where
  tcpSocket : Option TcpAction
  httpGet : Option HttpAction
  exec : Option ExecAction
  initialDelaySeconds : Option UInt32
  periodSeconds : Option UInt32
  timeoutSeconds : Option UInt32
  failureThreshold : Option UInt32
deriving DecidableEq

namespace Probe

def shape : Shape :=
  ⟨"Probe", ["tcpSocket", "httpGet", "exec", "initialDelaySeconds", "periodSeconds",
    "timeoutSeconds", "failureThreshold"], false⟩

def read (json : Json) : Except Fault Probe :=
  readRecord shape (fun members =>
    Probe.mk <$> members.optional "tcpSocket" TcpAction.read
      <*> members.optional "httpGet" HttpAction.read
      <*> members.optional "exec" ExecAction.read
      <*> members.optional "initialDelaySeconds" readCount
      <*> members.optional "periodSeconds" readCount
      <*> members.optional "timeoutSeconds" readCount
      <*> members.optional "failureThreshold" readCount) json

def count (value : UInt32) : Json := .int value.toNat

def toJson (probe : Probe) : Json :=
  .record [
    ("tcpSocket", probe.tcpSocket.map TcpAction.toJson),
    ("httpGet", probe.httpGet.map HttpAction.toJson),
    ("exec", probe.exec.map ExecAction.toJson),
    ("initialDelaySeconds", probe.initialDelaySeconds.map count),
    ("periodSeconds", probe.periodSeconds.map count),
    ("timeoutSeconds", probe.timeoutSeconds.map count),
    ("failureThreshold", probe.failureThreshold.map count)]

end Probe

end PlatformManifests
