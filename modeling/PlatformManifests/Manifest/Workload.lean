import PlatformManifests.Manifest.Basic
import PlatformManifests.Manifest.Pod

/-!
Workloads: stateful sets and deployments keep a number of pods running, a job runs a pod to its
end.
-/
namespace PlatformManifests

open Reading

structure StatefulSet where
  /-- The service that gives the pods their addresses. -/
  serviceName : String
  replicas : UInt32
  selector : LabelSelector
  template : PodTemplate
deriving DecidableEq

namespace StatefulSet

def shape : Shape :=
  ⟨"StatefulSetSpec", ["serviceName", "replicas", "selector", "template"], false⟩

def read (json : Json) : Except Fault StatefulSet :=
  readRecord shape (fun members =>
    StatefulSet.mk <$> members.required "serviceName" readText
      <*> members.required "replicas" readCount
      <*> members.required "selector" LabelSelector.read
      <*> members.required "template" PodTemplate.read) json

def toJson (workload : StatefulSet) : Json :=
  .record [
    ("serviceName", some (.str workload.serviceName)),
    ("replicas", some (.int workload.replicas.toNat)),
    ("selector", some workload.selector.toJson),
    ("template", some workload.template.toJson)]

end StatefulSet

instance : Body StatefulSet where
  kind := .statefulSet
  fields := ["spec"]
  read members := members.required "spec" StatefulSet.read
  write body := [("spec", some body.toJson)]

structure Deployment where
  replicas : UInt32
  selector : LabelSelector
  template : PodTemplate
deriving DecidableEq

namespace Deployment

def shape : Shape := ⟨"DeploymentSpec", ["replicas", "selector", "template"], false⟩

def read (json : Json) : Except Fault Deployment :=
  readRecord shape (fun members =>
    Deployment.mk <$> members.required "replicas" readCount
      <*> members.required "selector" LabelSelector.read
      <*> members.required "template" PodTemplate.read) json

def toJson (workload : Deployment) : Json :=
  .record [
    ("replicas", some (.int workload.replicas.toNat)),
    ("selector", some workload.selector.toJson),
    ("template", some workload.template.toJson)]

end Deployment

instance : Body Deployment where
  kind := .deployment
  fields := ["spec"]
  read members := members.required "spec" Deployment.read
  write body := [("spec", some body.toJson)]

structure Job where
  /-- How often the pod is started again before the job has failed. -/
  backoffLimit : UInt32
  template : PodTemplate
deriving DecidableEq

namespace Job

def shape : Shape := ⟨"JobSpec", ["backoffLimit", "template"], false⟩

def read (json : Json) : Except Fault Job :=
  readRecord shape (fun members =>
    Job.mk <$> members.required "backoffLimit" readCount
      <*> members.required "template" PodTemplate.read) json

def toJson (workload : Job) : Json :=
  .record [
    ("backoffLimit", some (.int workload.backoffLimit.toNat)),
    ("template", some workload.template.toJson)]

end Job

instance : Body Job where
  kind := .job
  fields := ["spec"]
  read members := members.required "spec" Job.read
  write body := [("spec", some body.toJson)]

end PlatformManifests
