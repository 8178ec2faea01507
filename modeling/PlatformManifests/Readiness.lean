import PlatformManifests.Manifest.Container

/-!
Readiness checks. One check serves two purposes: the service itself is probed with it, and whoever
depends on the service makes one attempt at it before it starts.
-/
namespace PlatformManifests

inductive CheckKind where
  | tcp
  | http
  | exec
deriving DecidableEq, Repr

def CheckKind.name : CheckKind → String
  | .tcp => "Tcp"
  | .http => "Http"
  | .exec => "Exec"

inductive ReadinessCheck where
  | tcp (host : String) (port : UInt16)
  | http (host : String) (port : UInt16) (path : String)
  | exec (command : List String)
deriving DecidableEq

/-- When a probe is made, and how often it may fail. -/
structure ProbeTiming where
  initialDelaySeconds : UInt32
  periodSeconds : UInt32
  timeoutSeconds : UInt32
  failureThreshold : UInt32
deriving DecidableEq

namespace ProbeTiming

def standard : ProbeTiming := ⟨10, 10, 5, 6⟩

def after (initialDelaySeconds : UInt32) : ProbeTiming :=
  { standard with initialDelaySeconds := initialDelaySeconds }

/-- A probe at these times that does nothing yet. -/
def probe (timing : ProbeTiming) : Probe :=
  ⟨none, none, none, some timing.initialDelaySeconds, some timing.periodSeconds,
    some timing.timeoutSeconds, some timing.failureThreshold⟩

end ProbeTiming

namespace ReadinessCheck

def kind : ReadinessCheck → CheckKind
  | .tcp _ _ => .tcp
  | .http _ _ _ => .http
  | .exec _ => .exec

/-- The check as a probe of the service itself, which needs no host. -/
def probe (check : ReadinessCheck) (timing : ProbeTiming) : Probe :=
  match check with
  | .tcp _ port => { timing.probe with tcpSocket := some ⟨port⟩ }
  | .http _ port path => { timing.probe with httpGet := some ⟨path, port⟩ }
  | .exec command => { timing.probe with exec := some ⟨command⟩ }

end ReadinessCheck

/-- A service that has to be ready before a workload starts. -/
structure WaitStep where
  target : String
  check : ReadinessCheck
  image : String
  timeoutSeconds : UInt32
deriving DecidableEq

namespace WaitStep

def standardTimeout : UInt32 := 5

def ofCheck (target : String) (check : ReadinessCheck) (image : String) : WaitStep :=
  ⟨target, check, image, standardTimeout⟩

def kind (step : WaitStep) : CheckKind := step.check.kind

/-- One attempt at the check, which fails unless the service is ready. -/
def command (step : WaitStep) : List String :=
  match step.check with
  | .tcp host port =>
    ["nc", "-z", "-w", toString step.timeoutSeconds, host, toString port]
  | .http host port path =>
    ["wget", "-q", "-O", "/dev/null", "-T", toString step.timeoutSeconds,
      "http://" ++ host ++ ":" ++ toString port ++ path]
  | .exec command => command

def container (step : WaitStep) : Container :=
  (Container.ofImage ("wait-for-" ++ step.target) step.image).withCommand step.command

end WaitStep

/-- The containers that run before those of the workload, in the order of the steps. -/
def initContainers (steps : List WaitStep) : List Container := steps.map WaitStep.container

end PlatformManifests
