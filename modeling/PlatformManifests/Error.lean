/-!
Why manifests cannot be made. An error names the component, the resource or the field at fault.

Errors about a missing secret or model field arise where the component is not known yet; the
component is filled in later, and only once (`Error.inComponent`).
-/
namespace PlatformManifests

inductive Error where
  | missingSecret (component secret : String)
  | duplicateResource (name first second : String)
  | invalidRoute (route message : String)
  | unresolvedField (component field : String)
  | invalidConfiguration (field message : String)
  | serialization (message : String) (kind : Option String)
deriving DecidableEq, Repr

/-- The outcome of a step on the way to manifests. -/
abbrev Outcome (α : Type) := Except Error α

namespace Error

/-- Stands for a component that is not known. -/
def unknownComponent : String := "unknown"

def missingSecretOf (secret : String) : Error := .missingSecret unknownComponent secret

def unresolvedFieldAt (field : String) : Error := .unresolvedField unknownComponent field

def message : Error → String
  | .missingSecret component secret =>
    "missing secret reference '" ++ secret ++ "' required by " ++ component
  | .duplicateResource name first second =>
    "duplicate resource '" ++ name ++ "' produced by " ++ first ++ " and " ++ second
  | .invalidRoute route message => "invalid route configuration for " ++ route ++ ": " ++ message
  | .unresolvedField component field =>
    "unresolved model field '" ++ field ++ "' in " ++ component
  | .invalidConfiguration field message =>
    "invalid configuration at " ++ field ++ ": " ++ message
  | .serialization message _ => "serialization error: " ++ message

/-- Fills in the component of an error that has none yet. -/
def inComponent (error : Error) (name : String) : Error :=
  match error with
  | .missingSecret component secret =>
    if component = unknownComponent then .missingSecret name secret else error
  | .unresolvedField component field =>
    if component = unknownComponent then .unresolvedField name field else error
  | _ => error

end Error

end PlatformManifests
