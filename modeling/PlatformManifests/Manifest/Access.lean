import PlatformManifests.Manifest.Basic

/-!
Access to the cluster: accounts for pods, roles with rules, and bindings of roles to accounts.
-/
namespace PlatformManifests

open Reading

def rbacGroup : String := "rbac.authorization.k8s.io"

structure ServiceAccount where
  automountServiceAccountToken : Option Bool
deriving DecidableEq

instance : Body ServiceAccount where
  kind := .serviceAccount
  fields := ["automountServiceAccountToken"]
  read members :=
    ServiceAccount.mk <$> members.optional "automountServiceAccountToken" readBoolean
  write body := [("automountServiceAccountToken", body.automountServiceAccountToken.map .bool)]

/-- Allows the verbs on the resources of the API groups. -/
structure PolicyRule where
  apiGroups : List String
  resources : List String
  verbs : List String
deriving DecidableEq

namespace PolicyRule

def shape : Shape := ⟨"PolicyRule", ["apiGroups", "resources", "verbs"], false⟩

def read (json : Json) : Except Fault PolicyRule :=
  readRecord shape (fun members =>
    PolicyRule.mk <$> members.required "apiGroups" readTexts
      <*> members.required "resources" readTexts
      <*> members.required "verbs" readTexts) json

def toJson (rule : PolicyRule) : Json :=
  .record [
    ("apiGroups", some (.texts rule.apiGroups)),
    ("resources", some (.texts rule.resources)),
    ("verbs", some (.texts rule.verbs))]

end PolicyRule

structure Role where
  rules : List PolicyRule
deriving DecidableEq

instance : Body Role where
  kind := .role
  fields := ["rules"]
  read members := Role.mk <$> members.required "rules" (readList PolicyRule.read)
  write body := [("rules", some (.array (body.rules.map PolicyRule.toJson)))]

structure RoleRef where
  apiGroup : String
  kind : String
  name : String
deriving DecidableEq

namespace RoleRef

def shape : Shape := ⟨"RoleRef", ["apiGroup", "kind", "name"], false⟩

def read (json : Json) : Except Fault RoleRef :=
  readRecord shape (fun members =>
    RoleRef.mk <$> members.required "apiGroup" readText
      <*> members.required "kind" readText
      <*> members.required "name" readText) json

def toJson (ref : RoleRef) : Json :=
  .record [
    ("apiGroup", some (.str ref.apiGroup)),
    ("kind", some (.str ref.kind)),
    ("name", some (.str ref.name))]

end RoleRef

structure Subject where
  kind : String
  name : String
  space : String
deriving DecidableEq

namespace Subject

def shape : Shape := ⟨"Subject", ["kind", "name", "namespace"], false⟩

def read (json : Json) : Except Fault Subject :=
  readRecord shape (fun members =>
    Subject.mk <$> members.required "kind" readText
      <*> members.required "name" readText
      <*> members.required "namespace" readText) json

def toJson (subject : Subject) : Json :=
  .record [
    ("kind", some (.str subject.kind)),
    ("name", some (.str subject.name)),
    ("namespace", some (.str subject.space))]

end Subject

structure RoleBinding where
  roleRef : RoleRef
  subjects : List Subject
deriving DecidableEq

instance : Body RoleBinding where
  kind := .roleBinding
  fields := ["roleRef", "subjects"]
  read members :=
    RoleBinding.mk <$> members.required "roleRef" RoleRef.read
      <*> members.required "subjects" (readList Subject.read)
  write body := [
    ("roleRef", some body.roleRef.toJson),
    ("subjects", some (.array (body.subjects.map Subject.toJson)))]

/-- Gives a role to a service account of the same namespace. -/
def bindRole (metadata : Metadata) (role account : String) : Manifest RoleBinding :=
  .ofBody metadata
    ⟨⟨rbacGroup, Kind.role.name, role⟩, [⟨Kind.serviceAccount.name, account, metadata.space⟩]⟩

end PlatformManifests
