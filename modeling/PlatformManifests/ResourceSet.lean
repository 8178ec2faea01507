import PlatformManifests.Descriptor
import PlatformManifests.Json.Printer
import PlatformManifests.Yaml.Printer

/-!
Resource sets: the resources of a whole deployment, each with the component that it comes from.

The resources are listed in the order in which they are applied: by the rank of their kind, and
by key within a rank. The order does not depend on how the set was put together.
-/
namespace PlatformManifests

structure OwnedResource where
  component : String
  resource : Resource
deriving DecidableEq

structure ResourceSet where
  entries : Dict OwnedResource
deriving DecidableEq

namespace ResourceSet

def empty : ResourceSet := ⟨∅⟩

instance : EmptyCollection ResourceSet := ⟨empty⟩

/-- The first key of a descriptor that is taken, with the component that has it. -/
def clash? (set : ResourceSet) (descriptor : Descriptor) : Option (String × String) :=
  descriptor.resources.keys.findSome? fun key =>
    (set.entries.get? key).map fun owned => (key, owned.component)

def insert (set : ResourceSet) (component key : String) (resource : Resource) : ResourceSet :=
  ⟨set.entries.insert key ⟨component, resource⟩⟩

/-- Changes to a set, which may fail. What was changed before a failure stays changed. -/
abbrev Change := ExceptT Error (StateM ResourceSet)

/-- Fails if a key of the descriptor is taken. -/
def check (descriptor : Descriptor) : Change Unit := do
  match (← get).clash? descriptor with
  | some (key, owner) => throw (.duplicateResource key owner descriptor.component)
  | none => return

/-- Takes in resources by their keys, one after the other. -/
def takeIn (component : String) : List (String × Resource) → Change Unit
  | [] => return
  | (key, resource) :: rest => do
    modify fun set => set.insert component key resource
    takeIn component rest

def mergeSteps (descriptor : Descriptor) : Change Unit := do
  check descriptor
  takeIn descriptor.component descriptor.resources.entries

/-- Takes in the resources of a component, unless one of their keys is taken. The set that is left
is given in both cases. -/
def merge (set : ResourceSet) (descriptor : Descriptor) : Outcome Unit × ResourceSet :=
  (mergeSteps descriptor).run.run set

def get? (set : ResourceSet) (key : String) : Option Resource :=
  (set.entries.get? key).map (·.resource)

/-- The component that a resource comes from. -/
def componentOf? (set : ResourceSet) (key : String) : Option String :=
  (set.entries.get? key).map (·.component)

def size (set : ResourceSet) : Nat := set.entries.size

def isEmpty (set : ResourceSet) : Bool := set.entries.isEmpty

def countKind (set : ResourceSet) (name : String) : Nat :=
  set.entries.values.countP fun owned => owned.resource.kind.name = name

def workloadCount (set : ResourceSet) : Nat :=
  set.entries.values.countP fun owned => owned.resource.isWorkload

def ofRank (set : ResourceSet) (rank : Nat) : List (String × OwnedResource) :=
  set.entries.entries.filter fun entry => entry.2.resource.kind.rank = rank

/-- The entries in the order in which they are applied. -/
def listing (set : ResourceSet) : List (String × OwnedResource) :=
  (List.range (Kind.lastRank + 1)).flatMap set.ofRank

def documents (set : ResourceSet) : List Json :=
  set.listing.map fun entry => entry.2.resource.toJson

def toYaml (set : ResourceSet) : String := Yaml.printAll set.documents

def toJson (set : ResourceSet) : String := Json.pretty (.array set.documents)

end ResourceSet

end PlatformManifests
