import PlatformManifests.Resource

/-!
Descriptors: the resources of one component, by their keys.
-/
namespace PlatformManifests

structure Descriptor where
  component : String
  resources : Dict Resource
deriving DecidableEq

namespace Descriptor

/-- Adds resources one after the other; a key that is already taken is an error. -/
def addAll (component : String) (resources : Dict Resource) :
    List Resource → Outcome (Dict Resource)
  | [] => .ok resources
  | resource :: rest =>
    if resources.contains resource.key then
      .error (.duplicateResource resource.key component component)
    else addAll component (resources.insert resource.key resource) rest

def ofResources (component : String) (resources : List Resource) : Outcome Descriptor :=
  (addAll component ∅ resources).map fun collected => ⟨component, collected⟩

def get? (descriptor : Descriptor) (key : String) : Option Resource :=
  descriptor.resources.get? key

def size (descriptor : Descriptor) : Nat := descriptor.resources.size

def isEmpty (descriptor : Descriptor) : Bool := descriptor.resources.isEmpty

end Descriptor

end PlatformManifests
