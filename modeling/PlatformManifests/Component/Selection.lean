import PlatformManifests.Component.IngressRouter
import PlatformManifests.Component.InitJob

/-!
All components of the platform in the order in which they are generated, and the choice of some of
them by name.
-/
namespace PlatformManifests

namespace Generator

def all : List Generator :=
  [Database.generator, Cache.generator, SearchIndex.generator, ObjectStore.generator,
    IdentityProvider.generator, CatalogApi.generator, IngressRouter.generator, InitJob.generator]

def names : List String := all.map Generator.component

/-- The generators with the given names, each once, in the order of all of them. -/
def select (chosen : List String) : Outcome (List Generator) :=
  match chosen.find? fun name => !names.contains name with
  | some unknown =>
    .error (.invalidConfiguration "only" ("unknown component '" ++ unknown
      ++ "', expected one of: " ++ String.intercalate ", " names))
  | none => .ok (all.filter fun generator => chosen.contains generator.component)

end Generator

end PlatformManifests
