import PlatformManifests.CommandLine.Run
import PlatformManifests.Proofs.Files
import PlatformManifests.Proofs.Lossless
import PlatformManifests.Proofs.Requirements

/-!
What commands do to a store of files. All steps up to the composed set read and change nothing, and
they are the same steps for every command: a command differs from another one in what it makes of
the set, or of the failure to compose one.
-/
namespace PlatformManifests.CommandLine

namespace Store

variable {σ : Type}

/-- The report of a run of the program, and the state that it leaves. -/
def run (store : Store σ) (state : σ) (arguments : List String) (fallback : Option String) :
    Report × σ :=
  (CommandLine.run store.access arguments fallback).run state

/-! ### What is read -/

theorem mapError_eq_ok {ε α : Type} {outcome : Except ε α} {change : ε → Failure} {value : α} :
    outcome.mapError change = .ok value ↔ outcome = .ok value := by
  cases outcome <;> simp [Except.mapError]

variable (store : Store σ) (state : σ)

def text (path : String) : Except Failure String :=
  (store.read state path).mapError (.read path)

def configuration (path : String) : Except Failure Configuration := do
  (Configuration.ofYaml (.read (← store.text state path))).mapError .compile

def model : Option String → Except Failure Model
  | some path => do (Model.ofYaml (.read (← store.text state path))).mapError .compile
  | none => .ok .standard

/-- The set that the named components are composed to. -/
def composed (config : String) (model : Option String) (only : List String) :
    Except Failure ResourceSet := do
  let config ← store.configuration state config
  let model ← store.model state model
  let generators ← (chosenGenerators only).mapError .compile
  (compose model config generators).mapError .compile

end Store

/-! ### Steps -/

section Steps

variable {σ α β : Type}

/-- The step has the result and changes nothing. -/
def Step.Yields (step : Step (StateM σ) α) (state : σ) (result : Except Failure α) : Prop :=
  (ExceptT.run step).run state = (result, state)

theorem Step.Yields.bind {step : Step (StateM σ) α} {next : α → Step (StateM σ) β} {state : σ}
    {result : Except Failure α} {after : α → Except Failure β} (first : step.Yields state result)
    (further : ∀ value, result = .ok value → (next value).Yields state (after value)) :
    (step >>= next).Yields state (result >>= after) := by
  rw [Yields] at first
  rw [Yields, Outcome.run_bind, first]
  cases result with
  | error failure => rfl
  | ok value => exact further value rfl

theorem Step.yields_ofOutcome (outcome : Outcome α) (state : σ) :
    (ofOutcome outcome : Step (StateM σ) α).Yields state (outcome.mapError .compile) := rfl

theorem Step.yields_pure (value : α) (state : σ) :
    (pure value : Step (StateM σ) α).Yields state (.ok value) := rfl

end Steps

namespace Store

variable {σ : Type} (store : Store σ) (state : σ)

theorem yields_readFile (path : String) :
    (readFile store.access path).Yields state (store.text state path) := rfl

theorem yields_loadConfiguration (path : String) :
    (loadConfiguration store.access path).Yields state (store.configuration state path) :=
  (store.yields_readFile state path).bind fun _ _ => Step.yields_ofOutcome _ state

theorem yields_loadModel (path : Option String) :
    (loadModel store.access path).Yields state (store.model state path) := by
  cases path with
  | none => exact Step.yields_pure _ state
  | some path =>
    exact (store.yields_readFile state path).bind fun _ _ => Step.yields_ofOutcome _ state

theorem run_writeFile (path content : String) :
    (ExceptT.run (writeFile store.access path content)).run state =
      ((store.write state path content).1.mapError .write, (store.write state path content).2) :=
  rfl

/-- The steps up to the composed set. -/
def steps (config : String) (model : Option String) (only : List String) :
    Step (StateM σ) ResourceSet := do
  let config ← loadConfiguration store.access config
  let model ← loadModel store.access model
  let generators ← ofOutcome (chosenGenerators only)
  ofOutcome (compose model config generators)

theorem yields_steps (config : String) (model : Option String) (only : List String) :
    (store.steps config model only).Yields state (store.composed state config model only) :=
  (store.yields_loadConfiguration state config).bind fun _ _ =>
    (store.yields_loadModel state model).bind fun _ _ =>
      (Step.yields_ofOutcome _ state).bind fun _ _ => Step.yields_ofOutcome _ state

theorem run_render (config : String) (model : Option String) (only : List String)
    (format : Format) :
    ((Command.render config model only format none).run store.access).Yields state
      ((store.composed state config model only).map (rendered format)) := by
  have same : (Command.render config model only format none).run store.access =
      store.steps config model only >>= fun set => pure (rendered format set) := by
    simp only [Command.run, steps, bind_assoc]
  rw [same]
  exact (store.yields_steps state config model only).bind fun set _ => Step.yields_pure _ state

theorem run_validate (config : String) (model : Option String) :
    ((Command.validate config model).run store.access).Yields state
      ((store.composed state config model []).map (Report.summary config)) := by
  have all : (ofOutcome (chosenGenerators []) : Step (StateM σ) _) = pure Generator.all := rfl
  have same : (Command.validate config model).run store.access =
      store.steps config model [] >>= fun set => pure (Report.summary config set) := by
    simp only [Command.run, steps, bind_assoc, all, pure_bind]
  rw [same]
  exact (store.yields_steps state config model []).bind fun set _ => Step.yields_pure _ state

/-- Rendering to a file is rendering, and then writing what would have been printed. -/
theorem run_render_to (config : String) (model : Option String) (only : List String)
    (format : Format) (path : String) :
    (ExceptT.run ((Command.render config model only format (some path)).run store.access)).run
        state =
      match (store.composed state config model only).map (rendered format) with
      | .error failure => (.error failure, state)
      | .ok text =>
        match store.write state path text with
        | (.ok _, after) => (.ok "", after)
        | (.error error, after) => (.error (.write error), after) := by
  have same : (Command.render config model only format (some path)).run store.access =
      (store.steps config model only >>= fun set => do
        writeFile store.access path (rendered format set)
        pure "") := by
    simp only [Command.run, steps, bind_assoc]
  rw [same, Outcome.run_bind, store.yields_steps]
  cases store.composed state config model only with
  | error failure => rfl
  | ok set =>
    change (ExceptT.run (writeFile store.access path (rendered format set) >>= fun _ =>
      pure "")).run state = _
    rw [Outcome.run_bind, store.run_writeFile]
    cases written : store.write state path (rendered format set) with
    | mk outcome after =>
      simp only [Except.map, written]
      cases outcome <;> rfl

/-! ### Reports -/

/-- What is reported when a command has ended. -/
def report : Except Failure String → Report
  | .ok output => .success output
  | .error failure => .failure failure

variable {arguments : List String} {fallback : Option String}

theorem run_of_stop {stop : Stop} (stopped : Command.ofArguments arguments fallback = .error stop) :
    store.run state arguments fallback = (.ofStop stop, state) := by
  rw [run, CommandLine.run, stopped]
  rfl

theorem run_of_command {command : Command}
    (named : Command.ofArguments arguments fallback = .ok command) :
    store.run state arguments fallback =
      match (ExceptT.run (command.run store.access)).run state with
      | (result, changed) => (report result, changed) := by
  rw [run, CommandLine.run, named]
  change (match (ExceptT.run (command.run store.access)).run state with
    | (result, later) =>
      StateT.run (match result with
        | .ok output => (pure (.success output) : StateM σ Report)
        | .error failure => pure (.failure failure)) later) = _
  cases (ExceptT.run (command.run store.access)).run state with
  | mk result changed => cases result <;> rfl

theorem run_of_yields {command : Command} {result : Except Failure String}
    (named : Command.ofArguments arguments fallback = .ok command)
    (yields : (command.run store.access).Yields state result) :
    store.run state arguments fallback = (report result, state) := by
  rw [store.run_of_command state named, yields]

/-- A line that renders to a file ends as the write does, once there is something to write. -/
theorem run_of_render_to {config : String} {model : Option String} {only : List String}
    {format : Format} {path : String}
    (named : Command.ofArguments arguments fallback =
      .ok (.render config model only format (some path))) :
    store.run state arguments fallback =
      match (store.composed state config model only).map (rendered format) with
      | .error failure => (.failure failure, state)
      | .ok text =>
        match store.write state path text with
        | (.ok _, after) => (.success "", after)
        | (.error error, after) => (.failure (.write error), after) := by
  rw [store.run_of_command state named, store.run_render_to]
  cases (store.composed state config model only).map (rendered format) with
  | error failure => rfl
  | ok text =>
    simp only
    cases store.write state path text with
    | mk outcome after => cases outcome <;> rfl

end Store

/-! ### A demonstration -/

namespace FileTree

/-- The demonstration configuration in a directory, beside another directory that is empty. -/
def demonstration : FileTree where
  here := ["work"]
  nodes := [
    (["work"], .directory),
    (["work", "deployment.yaml"], .file (Yaml.print Configuration.demonstration.toJson)),
    (["srv"], .directory)]

theorem read_demonstration : demonstration.read "deployment.yaml" =
    .ok (Yaml.print Configuration.demonstration.toJson) := by
  have named : FilePath.read "deployment.yaml" = .ok ⟨false, ["deployment.yaml"], false⟩ := by
    decide +kernel
  have located : demonstration.locate ⟨false, ["deployment.yaml"], false⟩ =
      .ok ["work", "deployment.yaml"] := by
    decide +kernel
  have listed : demonstration.at? ["work", "deployment.yaml"] =
      some (.file (Yaml.print Configuration.demonstration.toJson)) := rfl
  exact read_of_holds ⟨_, file?_eq_some.mpr ⟨_, _, named, rfl, located, listed⟩,
    content?_eq_some.mpr listed⟩

theorem exists_composed_demonstration :
    ∃ set, store.composed demonstration "deployment.yaml" none [] = .ok set := by
  obtain ⟨set, composed⟩ := exists_compose_demonstration
  have shown : (Yaml.Document.read (Yaml.print Configuration.demonstration.toJson)).Shows
      Configuration.demonstration.toJson :=
    Yaml.Document.shows_ofList (by decide +kernel) (by decide +kernel)
  have text : store.text demonstration "deployment.yaml" =
      .ok (Yaml.print Configuration.demonstration.toJson) :=
    Store.mapError_eq_ok.mpr read_demonstration
  have settings : store.configuration demonstration "deployment.yaml" =
      .ok Configuration.demonstration := by
    have read := Configuration.ofYaml_eq_ok Configuration.demonstration_valid shown
    exact Outcome.bind_eq_ok.mpr ⟨_, text, Store.mapError_eq_ok.mpr read⟩
  have platform : store.model demonstration none = .ok Model.standard := rfl
  have all : (chosenGenerators []).mapError Failure.compile = .ok Generator.all := rfl
  refine ⟨set, Outcome.bind_eq_ok.mpr ⟨_, settings, Outcome.bind_eq_ok.mpr ⟨_, platform, ?_⟩⟩⟩
  exact Outcome.bind_eq_ok.mpr ⟨_, all, Store.mapError_eq_ok.mpr composed⟩

end FileTree

end PlatformManifests.CommandLine
