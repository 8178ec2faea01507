import PlatformManifests.Component.Selection
import PlatformManifests.Configuration.Validation
import PlatformManifests.ResourceSet

/-!
The resources of a whole deployment: configuration and model are validated, and then the resources
of one component after the other are taken in. The first error ends the composition.
-/
namespace PlatformManifests

/-- The resources of a component; its errors name it. -/
def Generator.run (generator : Generator) (model : Model) (config : Configuration) :
    Outcome Descriptor :=
  (generator.generate model config).mapError fun error => error.inComponent generator.component

def addComponent (model : Model) (config : Configuration) (set : ResourceSet)
    (generator : Generator) : Outcome ResourceSet := do
  let descriptor ← generator.run model config
  match set.merge descriptor with
  | (.ok _, merged) => return merged
  | (.error error, _) => throw error

def compose (model : Model) (config : Configuration) (generators : List Generator) :
    Outcome ResourceSet := do
  config.validate
  model.validate
  generators.foldlM (addComponent model config) ∅

end PlatformManifests
