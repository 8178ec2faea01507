import Mathlib.Data.List.Basic
import PlatformManifests.CommandLine.Arguments
import PlatformManifests.Component.Selection
import PlatformManifests.Proofs.Outcome

/-!
Lines of arguments. A line that is written from paths, names of components and a format is read as
these, by rendering and by validation alike. A line that names an output file is read without it as
the same line without an output.
-/
namespace PlatformManifests.CommandLine

def Format.name : Format → String
  | .yaml => "yaml"
  | .json => "json"

/-! ### One option -/

/-- The options of rendering. -/
def renderOptions : List OptionName := [.config, .model, .only, .format, .output]

/-- The options of validation. -/
def validateOptions : List OptionName := [.config, .model]

/-- A text that can stand behind an option as a path. -/
def isPath (text : String) : Bool := isValue text && !text.isEmpty

section Options

variable {known : List OptionName} {values next : Values} {argument value : String}
  {name : OptionName} {later : List String}

theorem readOptions_value (named : Argument.ofText known argument = .option name none)
    (shaped : isValue value) (assigned : values.assign name value = some next) :
    readOptions known values (argument :: value :: later) = readOptions known next later := by
  conv_lhs => unfold readOptions
  simp only [named, if_pos shaped, assigned]

theorem readOptions_attached (named : Argument.ofText known argument = .option name (some value))
    (assigned : values.assign name value = some next) :
    readOptions known values (argument :: later) = readOptions known next later := by
  conv_lhs => unfold readOptions
  simp only [named, assigned]

theorem readOptions_refused (named : Argument.ofText known argument = .option name none)
    (refused : isValue value → values.assign name value = none) :
    readOptions known values (argument :: value :: later) = .error .misused := by
  unfold readOptions
  by_cases shaped : isValue value
  · simp only [named, if_pos shaped, refused shaped]
  · simp only [named, if_neg shaped]

/-- An option for a path, which must not be empty. -/
theorem readOptions_path (named : Argument.ofText known argument = .option name none)
    (assigned : values.assign name value = if value.isEmpty then none else some next) :
    readOptions known values (argument :: value :: later) =
      if isPath value then readOptions known next later else .error .misused := by
  cases word : isValue value with
  | false =>
    have refused : isPath value = false := by rw [isPath, word]; rfl
    rw [refused]
    refine readOptions_refused named fun shaped => ?_
    rw [word] at shaped
    cases shaped
  | true =>
    cases nothing : value.isEmpty with
    | true =>
      have refused : isPath value = false := by rw [isPath, word, nothing]; rfl
      rw [refused]
      refine readOptions_refused named fun _ => ?_
      rw [assigned, if_pos nothing]
    | false =>
      have taken : isPath value = true := by rw [isPath, word, nothing]; rfl
      rw [taken]
      refine readOptions_value named word ?_
      rw [assigned, if_neg (Bool.eq_false_iff.mp nothing)]

end Options

/-! ### Written lines -/

/-- The paths of the configuration and of the model. -/
def inputs (config : String) (model : Option String) : List String :=
  "-c" :: config :: model.elim [] fun path => ["-m", path]

/-- Components to choose, in groups with commas. -/
def selection (groups : List (List String)) : List String :=
  groups.flatMap fun group => ["--only", String.intercalate "," group]

def style : Option Format → List String
  | none => []
  | some format => ["-f", format.name]

/-- Whether the paths can stand on a line. -/
def arePaths (config : String) (model : Option String) : Bool := isPath config && model.all isPath

theorem readOptions_inputs {known : List OptionName}
    (configNamed : Argument.ofText known "-c" = .option .config none)
    (modelNamed : Argument.ofText known "-m" = .option .model none) (config : String)
    (model : Option String) (later : List String) :
    readOptions known Values.none (inputs config model ++ later) =
      if arePaths config model then readOptions known ⟨some config, model, [], none, none⟩ later
      else .error .misused := by
  have first : Values.none.assign .config config =
      if config.isEmpty then none else some ⟨some config, none, [], none, none⟩ := by
    unfold Values.assign Values.once
    cases config.isEmpty <;> rfl
  rw [inputs, List.cons_append, List.cons_append, readOptions_path configNamed first, arePaths]
  cases isPath config with
  | false => rfl
  | true =>
    cases model with
    | none => rfl
    | some path =>
      have second : (⟨some config, none, [], none, none⟩ : Values).assign .model path =
          if path.isEmpty then none else some ⟨some config, some path, [], none, none⟩ := by
        unfold Values.assign Values.once
        cases path.isEmpty <;> rfl
      exact readOptions_path modelNamed second

/-- Names that commas can stand between. -/
def Listable (group : List String) : Prop :=
  group ≠ [] ∧ ∀ name ∈ group, ',' ∉ name.toList ∧ name.toList ≠ [] ∧ name.toList.head? ≠ some '-'

theorem isValue_intercalate {group : List String} (listable : Listable group) :
    isValue (String.intercalate "," group) := by
  obtain ⟨several, each⟩ := listable
  obtain ⟨name, rest, rfl⟩ := List.exists_cons_of_ne_nil several
  obtain ⟨_, written, shaped⟩ := each name List.mem_cons_self
  obtain ⟨c, chars, text⟩ := List.exists_cons_of_ne_nil written
  have head : (String.intercalate "," (name :: rest)).toList.head? = some c := by
    cases rest with
    | nil => rw [String.intercalate_singleton, text, List.head?_cons]
    | cons next later =>
      rw [String.intercalate_cons_cons, String.append_assoc, String.toList_append, text,
        List.cons_append, List.head?_cons]
  rw [text, List.head?_cons] at shaped
  rw [isValue, head, decide_eq_true shaped, Bool.or_true]

theorem readOptions_selection {groups : List (List String)}
    (listable : ∀ group ∈ groups, Listable group) (values : Values) (later : List String) :
    readOptions renderOptions values (selection groups ++ later) =
      readOptions renderOptions { values with only := values.only ++ groups.flatten } later := by
  induction groups generalizing values with
  | nil => rw [List.flatten_nil, List.append_nil]; rfl
  | cons group rest ih =>
    obtain ⟨first, others⟩ := List.forall_mem_cons.mp listable
    have named : Argument.ofText renderOptions "--only" = .option .only none := by rfl
    have assigned : values.assign .only (String.intercalate "," group) =
        some { values with only := values.only ++ group } := by
      have comma : ",".toList = [','] := by decide
      rw [Values.assign,
        Text.pieces_intercalate comma first.1 fun name member => (first.2 name member).1]
    have line : selection (group :: rest) ++ later =
        "--only" :: String.intercalate "," group :: (selection rest ++ later) := rfl
    rw [line, readOptions_value named (isValue_intercalate first) assigned, ih others,
      List.flatten_cons, List.append_assoc]

theorem readOptions_style {values : Values} (unset : values.format = none)
    (format : Option Format) :
    readOptions renderOptions values (style format) = .ok { values with format := format } := by
  cases format with
  | none =>
    obtain ⟨config, model, only, held, output⟩ := values
    cases unset
    rfl
  | some format =>
    have named : Argument.ofText renderOptions "-f" = .option .format none := rfl
    have assigned : values.assign .format format.name =
        some { values with format := some format } := by
      rw [Values.assign, unset]
      cases format <;> rfl
    rw [style, readOptions_value named (by cases format <;> decide) assigned]
    rfl

theorem listable_of_known {group : List String} (some : group ≠ [])
    (known : ∀ name ∈ group, name ∈ Generator.names) : Listable group := by
  have each : ∀ name ∈ Generator.names,
      ',' ∉ name.toList ∧ name.toList ≠ [] ∧ name.toList.head? ≠ Option.some '-' := by
    decide +kernel
  exact ⟨some, fun name member => each name (known name member)⟩

theorem ofArguments_render {groups : List (List String)}
    (listable : ∀ group ∈ groups, Listable group) (config : String) (model : Option String)
    (format : Option Format) (fallback : Option String) :
    Command.ofArguments ("render" :: (inputs config model ++ (selection groups ++ style format)))
        fallback =
      if arePaths config model then
        .ok (.render config model groups.flatten (format.getD .yaml) none)
      else .error .misused := by
  have options := @readOptions_inputs renderOptions rfl rfl config model
    (selection groups ++ style format)
  rw [readOptions_selection listable, readOptions_style rfl] at options
  change Command.readRender _ fallback = _
  unfold Command.readRender
  change (do let values ← readOptions renderOptions Values.none _; _) = _
  rw [options]
  cases arePaths config model <;> rfl

theorem ofArguments_validate (config : String) (model : Option String)
    (fallback : Option String) :
    Command.ofArguments ("validate" :: inputs config model) fallback =
      if arePaths config model then .ok (.validate config model) else .error .misused := by
  have options := @readOptions_inputs validateOptions rfl rfl config model []
  rw [List.append_nil] at options
  change Command.readValidate _ fallback = _
  unfold Command.readValidate
  change (do let values ← readOptions validateOptions Values.none _; _) = _
  rw [options]
  cases arePaths config model <;> rfl

/-! ### Lines without an output -/

/-- The line without the options that name an output, and without their values. -/
def withoutOutput : List String → List String
  | [] => []
  | argument :: rest =>
    match Argument.ofText renderOptions argument, rest with
    | .option .output (some _), rest => withoutOutput rest
    | .option .output none, _ :: later => withoutOutput later
    | .option _ none, value :: later => argument :: value :: withoutOutput later
    | _, rest => argument :: withoutOutput rest

def Values.printed (values : Values) : Values := { values with output := .none }

theorem assign_printed {values next : Values} {name : OptionName} {value : String}
    (other : name ≠ .output) (assigned : values.assign name value = some next) :
    values.printed.assign name value = some next.printed := by
  cases name with
  | output => exact absurd rfl other
  | only =>
    cases assigned
    rfl
  | format =>
    rw [Values.assign] at assigned ⊢
    split at assigned
    · cases assigned
    · rename_i unset
      obtain ⟨format, named, rfl⟩ := Option.map_eq_some_iff.mp assigned
      rw [named]
      exact if_neg unset
  | config | model =>
    obtain ⟨path, once, rfl⟩ := Option.map_eq_some_iff.mp assigned
    exact Option.map_eq_some_iff.mpr ⟨path, once, rfl⟩

theorem printed_eq_of_assign {values next : Values} {value : String}
    (assigned : values.assign .output value = some next) : next.printed = values.printed := by
  obtain ⟨path, _, rfl⟩ := Option.map_eq_some_iff.mp assigned
  rfl

section Without

variable {values next given : Values} {argument value : String} {name : OptionName}
  {later arguments : List String}

theorem withoutOutput_last (escape : Argument.ofText renderOptions argument = .escape) :
    withoutOutput [argument] = [argument] := by
  unfold withoutOutput
  simp only [escape]
  rfl

theorem withoutOutput_attached
    (named : Argument.ofText renderOptions argument = .option name (some value)) :
    withoutOutput (argument :: later) =
      if name = .output then withoutOutput later else argument :: withoutOutput later := by
  conv_lhs => unfold withoutOutput
  cases name <;> simp only [named, reduceCtorEq, if_true, if_false]

theorem withoutOutput_value
    (named : Argument.ofText renderOptions argument = .option name none) :
    withoutOutput (argument :: value :: later) =
      if name = .output then withoutOutput later
      else argument :: value :: withoutOutput later := by
  conv_lhs => unfold withoutOutput
  cases name <;> simp only [named, reduceCtorEq, if_true, if_false]

theorem readOptions_last {known : List OptionName}
    (escape : Argument.ofText known argument = .escape) :
    readOptions known values [argument] = .ok values := by
  unfold readOptions
  simp only [escape]

/-- Without its output, a line is read as before, but for the output. -/
theorem readOptions_withoutOutput
    (read : readOptions renderOptions values arguments = .ok given) :
    readOptions renderOptions values.printed (withoutOutput arguments) = .ok given.printed := by
  fun_induction readOptions renderOptions values arguments with
  | case1 values =>
    cases read
    rfl
  | case2 values argument escape =>
    cases read
    rw [withoutOutput_last escape, readOptions_last escape]
  | case6 values argument name value rest named next assigned ih =>
    rw [withoutOutput_attached named]
    split
    · rename_i same
      subst same
      rw [← printed_eq_of_assign assigned, ih read]
    · rename_i other
      rw [readOptions_attached named (assign_printed other assigned), ih read]
  | case9 values argument name value later named shaped next assigned ih =>
    rw [withoutOutput_value named]
    split
    · rename_i same
      subst same
      rw [← printed_eq_of_assign assigned, ih read]
    · rename_i other
      rw [readOptions_value named shaped (assign_printed other assigned), ih read]
  | _ => cases read

theorem ofArguments_withoutOutput {config : String} {model output : Option String}
    {only : List String} {format : Format} {fallback : Option String}
    (named : Command.ofArguments ("render" :: arguments) fallback =
      .ok (.render config model only format output)) :
    Command.ofArguments ("render" :: withoutOutput arguments) fallback =
      .ok (.render config model only format none) := by
  change Command.readRender _ fallback = _ at named
  change Command.readRender _ fallback = _
  unfold Command.readRender at named ⊢
  obtain ⟨given, read, named⟩ := Outcome.bind_eq_ok.mp named
  obtain ⟨path, found, named⟩ := Outcome.bind_eq_ok.mp named
  cases named
  have without : readOptions [.config, .model, .only, .format, .output] Values.none
      (withoutOutput arguments) = .ok given.printed := readOptions_withoutOutput read
  rw [without]
  change (do let config ← configPath given fallback; _) = _
  rw [found]
  rfl

end Without

end PlatformManifests.CommandLine
