import PlatformManifests.CommandLine.Arguments
import PlatformManifests.CommandLine.Files
import PlatformManifests.Composition
import PlatformManifests.Configuration.Document
import PlatformManifests.Model.Document
import PlatformManifests.Model.Standard
import PlatformManifests.Text.Quoted

/-!
What the program does with its arguments: it reads a configuration and possibly a model, composes
the resources, and shows or writes them. The outcome is an exit code and what is printed.
-/
namespace PlatformManifests.CommandLine

/-- What makes a command fail. -/
inductive Failure where
  | compile (error : Error)
  | read (path : String) (error : FileError)
  | write (error : FileError)
deriving DecidableEq, Repr

/-! ### Descriptions of failures -/

def namedFields (name : String) (fields : List (String × String)) : String :=
  name ++ " \x7b " ++ String.intercalate ", " (fields.map fun field => field.1 ++ ": " ++ field.2)
    ++ " \x7d"

def quotedFields (fields : List (String × String)) : List (String × String) :=
  fields.map fun field => (field.1, Text.quoted field.2)

def optionText : Option String → String
  | none => "None"
  | some text => "Some(" ++ Text.quoted text ++ ")"

def describeError : Error → String
  | .missingSecret component secret =>
    namedFields "MissingSecretReference"
      (quotedFields [("component", component), ("secret", secret)])
  | .duplicateResource name first second =>
    namedFields "DuplicateResourceName"
      (quotedFields [("name", name), ("first", first), ("second", second)])
  | .invalidRoute route message =>
    namedFields "InvalidRouteConfiguration" (quotedFields [("route", route), ("message", message)])
  | .unresolvedField component field =>
    namedFields "UnresolvedModelField"
      (quotedFields [("component", component), ("field", field)])
  | .invalidConfiguration field message =>
    namedFields "InvalidConfiguration" (quotedFields [("field", field), ("message", message)])
  | .serialization message kind =>
    namedFields "Serialization"
      (quotedFields [("message", message)] ++ [("kind", optionText kind)])

def systemError (code : Nat) (kind message : String) : String :=
  namedFields "Os" [("code", toString code), ("kind", kind), ("message", Text.quoted message)]

namespace FileError

def describe : FileError → String
  | .notFound => systemError 2 "NotFound" "No such file or directory"
  | .notDirectory => systemError 20 "NotADirectory" "Not a directory"
  | .isDirectory => systemError 21 "IsADirectory" "Is a directory"
  | .nameTooLong => systemError 36 "InvalidFilename" "File name too long"
  | .other code kind message => systemError code kind message
  | .notText =>
    namedFields "Error"
      [("kind", "InvalidData"), ("message", Text.quoted "stream did not contain valid UTF-8")]
  | .notName =>
    namedFields "Error"
      [("kind", "InvalidInput"),
        ("message", Text.quoted "file name contained an unexpected NUL byte")]

end FileError

def Failure.describe : Failure → String
  | .compile error => "Compile(" ++ describeError error ++ ")"
  | .read path error =>
    namedFields "Read" [("path", Text.quoted path), ("source", error.describe)]
  | .write error => "Io(" ++ error.describe ++ ")"

/-! ### Commands -/

/-- What is left when the program has ended. -/
structure Report where
  exitCode : UInt32
  output : String
  complaint : String
deriving DecidableEq, Repr

namespace Report

def success (output : String) : Report := ⟨0, output, ""⟩

def failure (failure : Failure) : Report := ⟨1, "", "Error: " ++ failure.describe ++ "\n"⟩

def usage : String :=
  String.intercalate "\n" [
    "Usage: wisefood <COMMAND>",
    "",
    "Commands:",
    "  render      Render the manifests of a deployment",
    "  validate    Check a deployment configuration without writing manifests",
    "  components  List the platform components in generation order",
    "  help        Print this message or the help of the given subcommand(s)",
    "",
    "Options:",
    "  -c, --config <CONFIG>  Deployment configuration file",
    "  -m, --model <MODEL>    Platform model file",
    "      --only <ONLY>      Only render these components (comma separated)",
    "  -f, --format <FORMAT>  Output format: yaml or json",
    "  -o, --output <OUTPUT>  Write manifests to this file instead of stdout",
    "  -h, --help             Print help",
    "  -V, --version          Print version",
    ""]

def ofStop : Stop → Report
  | .misused => ⟨2, "", usage⟩
  | .help => success usage
  | .version => success "wisefood 0.1.0\n"

/-- What is printed after a successful validation. -/
def summary (config : String) (set : ResourceSet) : String :=
  String.intercalate "\n" [
    "Configuration: " ++ config,
    "Resources:     " ++ toString set.size,
    "Workloads:     " ++ toString set.workloadCount,
    "Routes:        " ++ toString (set.countKind Kind.ingress.name),
    "",
    "All validations passed",
    ""]

end Report

section

variable {m : Type → Type} [Monad m]

/-- A step of a command, which may fail. -/
abbrev Step (m : Type → Type) (α : Type) := ExceptT Failure m α

def ofOutcome {α : Type} (outcome : Outcome α) : Step m α :=
  ExceptT.mk (pure (outcome.mapError .compile))

def readFile (files : FileAccess m) (path : String) : Step m String :=
  ExceptT.mk (do return (← files.read path).mapError (.read path))

def writeFile (files : FileAccess m) (path content : String) : Step m Unit :=
  ExceptT.mk (do return (← files.write path content).mapError .write)

def loadConfiguration (files : FileAccess m) (path : String) : Step m Configuration := do
  ofOutcome (Configuration.ofYaml (.read (← readFile files path)))

def loadModel (files : FileAccess m) (path : Option String) : Step m Model :=
  match path with
  | some path => do ofOutcome (Model.ofYaml (.read (← readFile files path)))
  | none => pure Model.standard

/-- The generators of the named components, or all of them when none is named. -/
def chosenGenerators (names : List String) : Outcome (List Generator) :=
  if names.isEmpty then .ok Generator.all else Generator.select names

def rendered (format : Format) (set : ResourceSet) : String :=
  match format with
  | .yaml => set.toYaml
  | .json => set.toJson

/-- Runs a command; its result is what it prints. -/
def Command.run (files : FileAccess m) : Command → Step m String
  | .render config model only format output => do
    let config ← loadConfiguration files config
    let model ← loadModel files model
    let generators ← ofOutcome (chosenGenerators only)
    let set ← ofOutcome (compose model config generators)
    match output with
    | some path => do
      writeFile files path (rendered format set)
      return ""
    | none => return rendered format set
  | .validate path model => do
    let config ← loadConfiguration files path
    let model ← loadModel files model
    let set ← ofOutcome (compose model config Generator.all)
    return Report.summary path set
  | .components => return String.join (Generator.names.map fun name => name ++ "\n")

def run (files : FileAccess m) (arguments : List String) (fallback : Option String) :
    m Report := do
  match Command.ofArguments arguments fallback with
  | .error stop => return .ofStop stop
  | .ok command =>
    match ← (command.run files).run with
    | .ok output => return .success output
    | .error failure => return .failure failure

end

end PlatformManifests.CommandLine
