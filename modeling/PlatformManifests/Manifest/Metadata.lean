import PlatformManifests.Json.Source

/-!
Names, labels and annotations of objects in the cluster.

Objects are selected by two labels, the name of the service and the component that it belongs to.
-/
namespace PlatformManifests

open Reading

namespace Label

def name : String := "app.kubernetes.io/name"

def component : String := "app.kubernetes.io/component"

def partOf : String := "app.kubernetes.io/part-of"

def managedBy : String := "app.kubernetes.io/managed-by"

/-- The value of the part-of label. -/
def platform : String := "wisefood"

/-- The value of the managed-by label. -/
def manager : String := "wisefood-compiler"

/-- The labels by which the pods of a service are selected. -/
def selector (service role : String) : Dict String :=
  .ofList [(name, service), (component, role)]

end Label

/-- Dictionaries without entries are left out of documents. -/
def writtenDict (dict : Dict String) : Option Json :=
  if dict.isEmpty then none else some (.textDict dict)

/-- Lists without items are left out of documents. -/
def writtenList {α : Type} (write : α → Json) (items : List α) : Option Json :=
  Json.unlessEmpty (items.map write)

structure Metadata where
  name : String
  space : String
  labels : Dict String
  annotations : Dict String
deriving DecidableEq

namespace Metadata

/-- Metadata with the labels that every object of the platform has. -/
def ofName (name space : String) : Metadata where
  name := name
  space := space
  labels := .ofList [
    (Label.name, name), (Label.partOf, Label.platform), (Label.managedBy, Label.manager)]
  annotations := ∅

def withLabel (metadata : Metadata) (key value : String) : Metadata :=
  { metadata with labels := metadata.labels.insert key value }

def annotated (metadata : Metadata) (key value : String) : Metadata :=
  { metadata with annotations := metadata.annotations.insert key value }

def shape : Shape := ⟨"ObjectMeta", ["name", "namespace", "labels", "annotations"], false⟩

def read (json : Json) : Except Fault Metadata :=
  readRecord shape (fun members =>
    Metadata.mk <$> members.required "name" readText
      <*> members.required "namespace" readText
      <*> members.withDefault "labels" readTextDict ∅
      <*> members.withDefault "annotations" readTextDict ∅) json

def toJson (metadata : Metadata) : Json :=
  .record [
    ("name", some (.str metadata.name)),
    ("namespace", some (.str metadata.space)),
    ("labels", writtenDict metadata.labels),
    ("annotations", writtenDict metadata.annotations)]

end Metadata

/-- Selects the objects that have all of the labels. -/
structure LabelSelector where
  matchLabels : Dict String
deriving DecidableEq

namespace LabelSelector

def shape : Shape := ⟨"LabelSelector", ["matchLabels"], false⟩

def read (json : Json) : Except Fault LabelSelector :=
  readRecord shape (fun members =>
    LabelSelector.mk <$> members.withDefault "matchLabels" readTextDict ∅) json

def toJson (selector : LabelSelector) : Json :=
  .record [("matchLabels", writtenDict selector.matchLabels)]

end LabelSelector

end PlatformManifests
