import PlatformManifests.Text.Pieces

/-!
The arguments of the program. They are taken from left to right, and the first that is wrong, or
that asks for help, decides.
-/
namespace PlatformManifests.CommandLine

inductive Format where
  | yaml
  | json
deriving DecidableEq, Repr

def Format.ofName? (name : String) : Option Format :=
  if name = "yaml" then some .yaml else if name = "json" then some .json else none

inductive Command where
  | render (config : String) (model : Option String) (only : List String) (format : Format)
    (output : Option String)
  | validate (config : String) (model : Option String)
  | components
deriving DecidableEq, Repr

/-- Why the arguments name no command that can be run. -/
inductive Stop where
  | misused
  | help
  | version
deriving DecidableEq, Repr

inductive OptionName where
  | config
  | model
  | only
  | format
  | output
deriving DecidableEq, Repr

namespace OptionName

def word : OptionName → String
  | .config => "config"
  | .model => "model"
  | .only => "only"
  | .format => "format"
  | .output => "output"

def letter? : OptionName → Option Char
  | .config => some 'c'
  | .model => some 'm'
  | .only => none
  | .format => some 'f'
  | .output => some 'o'

end OptionName

/-- The values that the options have been given. -/
structure Values where
  config : Option String
  model : Option String
  only : List String
  format : Option Format
  output : Option String

namespace Values

def none : Values := ⟨.none, .none, [], .none, .none⟩

/-- A value for an option that is given once and not empty. -/
def once (earlier : Option String) (value : String) : Option (Option String) :=
  if earlier.isSome || value.isEmpty then .none else some (some value)

/-- Gives a value to an option. Only components may be named more than once, also with commas. -/
def assign (values : Values) (name : OptionName) (value : String) : Option Values :=
  match name with
  | .config => (once values.config value).map fun config => { values with config := config }
  | .model => (once values.model value).map fun model => { values with model := model }
  | .output => (once values.output value).map fun output => { values with output := output }
  | .only =>
    let names := (Text.pieces ',' value.toList).map String.ofList
    some { values with only := values.only ++ names }
  | .format =>
    if values.format.isSome then .none
    else (Format.ofName? value).map fun format => { values with format := some format }

end Values

/-- What one argument says. -/
inductive Argument where
  | escape
  | help
  | option (name : OptionName) (attached : Option String)
  | unknown

/-- An argument that starts with two hyphens. -/
def longArgument (known : List OptionName) (body : List Char) : Argument :=
  let word := String.ofList (body.takeWhile fun c => c ≠ '=')
  let rest := body.dropWhile fun c => c ≠ '='
  let attached := match rest with
    | [] => none
    | _ :: value => some (String.ofList value)
  if word = "help" ∧ attached.isNone then .help
  else
    match known.find? fun name => name.word = word with
    | some name => .option name attached
    | none => .unknown

/-- An argument that starts with one hyphen. A value may follow the letter at once. -/
def shortArgument (known : List OptionName) (letter : Char) (rest : List Char) : Argument :=
  let attached := match rest with
    | [] => none
    | '=' :: value => some (String.ofList value)
    | value => some (String.ofList value)
  if letter = 'h' then .help
  else
    match known.find? fun name => name.letter? = some letter with
    | some name => .option name attached
    | none => .unknown

def Argument.ofText (known : List OptionName) (text : String) : Argument :=
  match text.toList with
  | ['-', '-'] => .escape
  | '-' :: '-' :: body => longArgument known body
  | '-' :: letter :: rest => shortArgument known letter rest
  | _ => .unknown

/-- Whether an argument can be the value of the option before it. -/
def isValue (text : String) : Bool := text = "-" || text.toList.head? ≠ some '-'

/-- Takes the options of a command. After an escape nothing more may come. -/
def readOptions (known : List OptionName) : Values → List String → Except Stop Values
  | values, [] => .ok values
  | values, argument :: rest =>
    match Argument.ofText known argument, rest with
    | .escape, [] => .ok values
    | .escape, _ :: _ => .error .misused
    | .unknown, _ => .error .misused
    | .help, _ => .error .help
    | .option name (some value), rest =>
      match values.assign name value with
      | some next => readOptions known next rest
      | none => .error .misused
    | .option _ none, [] => .error .misused
    | .option name none, value :: later =>
      if isValue value then
        match values.assign name value with
        | some next => readOptions known next later
        | none => .error .misused
      else .error .misused

/-- The path of the configuration, from the options or else from the environment. -/
def configPath (values : Values) (fallback : Option String) : Except Stop String :=
  match values.config with
  | some path => .ok path
  | none =>
    match fallback with
    | some path => if path.isEmpty then .error .misused else .ok path
    | none => .error .misused

def commandWords : List String := ["render", "validate", "components"]

/-- Help is also asked for by a word, with at most the name of one command. -/
def helpOn : List String → Stop
  | [] => .help
  | [word] => if ("help" :: commandWords).contains word then .help else .misused
  | _ => .misused

namespace Command

def readRender (arguments : List String) (fallback : Option String) : Except Stop Command := do
  let values ← readOptions [.config, .model, .only, .format, .output] Values.none arguments
  let config ← configPath values fallback
  .ok (.render config values.model values.only (values.format.getD .yaml) values.output)

def readValidate (arguments : List String) (fallback : Option String) : Except Stop Command := do
  let values ← readOptions [.config, .model] Values.none arguments
  let config ← configPath values fallback
  .ok (.validate config values.model)

def readComponents (arguments : List String) : Except Stop Command := do
  let _ ← readOptions [] Values.none arguments
  .ok .components

/-- An argument before the command that starts with a hyphen. -/
def readFlag (argument : String) : Stop :=
  match argument.toList with
  | '-' :: 'V' :: _ => .version
  | '-' :: 'h' :: _ => .help
  | _ => if argument = "--version" then .version else if argument = "--help" then .help else .misused

/-- The command that the arguments name. The environment may give the path of the configuration. -/
def ofArguments (arguments : List String) (fallback : Option String) : Except Stop Command :=
  match arguments with
  | [] => .error .misused
  | first :: rest =>
    if first = "render" then readRender rest fallback
    else if first = "validate" then readValidate rest fallback
    else if first = "components" then readComponents rest
    else if first = "help" then .error (helpOn rest)
    else .error (readFlag first)

end Command

end PlatformManifests.CommandLine
