import PlatformManifests.Model.Basic
import PlatformManifests.Proofs.Outcome
import PlatformManifests.Secret

/-!
Lookups: what is asked of the model and of the configuration by key. A step that makes lookups one
after the other gives a value if all of them find something, and otherwise the error of the first
that does not (`Reads`).
-/
namespace PlatformManifests

inductive Lookup where
  | secret (identifier : String)
  | image (key : String)
  | port (key : String)
  | volume (key : String)
  | replicas (key : String)
  | client (key : String)
  | broker (key : String)
deriving DecidableEq, Repr

namespace Lookup

/-- There is an entry for what is asked. -/
def Found (model : Model) (config : Configuration) : Lookup → Prop
  | secret identifier => (config.secrets.get? identifier).isSome
  | image key => (model.images.get? key).isSome
  | port key => (model.ports.get? key).isSome
  | volume key => (model.volumes.get? key).isSome
  | replicas key => (model.replicas.get? key).isSome
  | client key => (model.identity.clients.get? key).isSome
  | broker key => (model.brokers.get? key).isSome

instance (model : Model) (config : Configuration) (lookup : Lookup) :
    Decidable (lookup.Found model config) := by
  cases lookup <;> exact inferInstanceAs (Decidable (_ = _))

/-- The first of the lookups that finds nothing. -/
def FirstAbsent (model : Model) (config : Configuration) (lookups : List Lookup)
    (lookup : Lookup) : Prop :=
  ∃ before after, lookups = before ++ lookup :: after ∧
    (∀ earlier ∈ before, earlier.Found model config) ∧ ¬ lookup.Found model config

/-- What a component reports that asks in vain: the secret by its identifier, or the dotted path
of the field. -/
def errorIn (component : String) : Lookup → Error
  | secret identifier => .missingSecret component identifier
  | image key => .unresolvedField component ("images." ++ key)
  | port key => .unresolvedField component ("ports." ++ key)
  | volume key => .unresolvedField component ("volumes." ++ key)
  | replicas key => .unresolvedField component ("replicas." ++ key)
  | client key => .unresolvedField component ("identity.clients." ++ key)
  | broker key => .unresolvedField component ("brokers." ++ key)

/-- The error before the component is known. -/
def error (lookup : Lookup) : Error := lookup.errorIn Error.unknownComponent

@[simp] theorem inComponent_error (lookup : Lookup) (component : String) :
    lookup.error.inComponent component = lookup.errorIn component := by
  cases lookup <;> rfl

end Lookup

/-! ### Single lookups -/

theorem Model.entry_eq_ok {α : Type} {dict : Dict α} {path key : String} {value : α} :
    Model.entry dict path key = .ok value ↔ dict.get? key = some value := by
  unfold Model.entry
  split <;> simp_all

theorem Configuration.secretName_eq_ok {config : Configuration} {identifier name : String} :
    config.secretName identifier = .ok name ↔ config.secrets.get? identifier = some name := by
  unfold Configuration.secretName
  split <;> simp_all

theorem Configuration.secretEnv_eq_ok {config : Configuration} {name identifier : String}
    {field : SecretField} {env : EnvVar} :
    config.secretEnv name identifier field = .ok env ↔
      ∃ secret, config.secrets.get? identifier = some secret ∧
        .ofSource name ⟨⟨secret, field.key⟩⟩ = env := by
  simp [secretEnv, secretVariable, secretSource, secretName_eq_ok]

theorem Configuration.secretEnv_name {config : Configuration} {name identifier : String}
    {field : SecretField} {env : EnvVar} (made : config.secretEnv name identifier field = .ok env) :
    env.name = name := by
  obtain ⟨_, _, rfl⟩ := secretEnv_eq_ok.mp made
  rfl

/-! ### Lookups in order -/

inductive Reads (model : Model) (config : Configuration) {α : Type} :
    List Lookup → Outcome α → Prop
  | value (lookups : List Lookup) (found : ∀ lookup ∈ lookups, lookup.Found model config)
      (value : α) : Reads model config lookups (.ok value)
  | missing (before : List Lookup) (lookup : Lookup) (after : List Lookup)
      (found : ∀ earlier ∈ before, earlier.Found model config)
      (absent : ¬ lookup.Found model config) :
      Reads model config (before ++ lookup :: after) (.error lookup.error)

namespace Reads

variable {model : Model} {config : Configuration} {α β : Type}

theorem pure (value : α) : Reads model config [] (.ok value) :=
  .value [] (fun _ inside => absurd inside List.not_mem_nil) value

theorem entry {dict : Dict α} {path key : String} {lookup : Lookup}
    (same : lookup.Found model config ↔ (dict.get? key).isSome)
    (reported : lookup.error = .unresolvedFieldAt (path ++ "." ++ key)) :
    Reads model config [lookup] (Model.entry dict path key) := by
  unfold Model.entry
  split
  · rename_i value held
    refine .value [lookup] (fun other inside => ?_) value
    rw [List.mem_singleton.mp inside, same, held]
    rfl
  · rename_i none
    rw [← reported]
    refine .missing [] lookup [] (fun _ inside => absurd inside List.not_mem_nil) ?_
    simp [same, none]

theorem image (key : String) : Reads model config [.image key] (model.image key) :=
  entry Iff.rfl rfl

theorem port (key : String) : Reads model config [.port key] (model.port key) :=
  entry Iff.rfl rfl

theorem volume (key : String) : Reads model config [.volume key] (model.volumeSize key) :=
  entry Iff.rfl rfl

theorem replicas (key : String) : Reads model config [.replicas key] (model.replicaCount key) :=
  entry Iff.rfl rfl

theorem client (key : String) : Reads model config [.client key] (model.clientId key) :=
  entry Iff.rfl rfl

theorem broker (key : String) : Reads model config [.broker key] (model.broker key) :=
  entry Iff.rfl rfl

/-- One step after the other makes the lookups of the first and then those of the second. -/
theorem bind {first second : List Lookup} {step : Outcome α} {next : α → Outcome β}
    (before : Reads model config first step)
    (after : ∀ value, step = .ok value → Reads model config second (next value)) :
    Reads model config (first ++ second) (step >>= next) := by
  cases before with
  | value _ found value =>
    have rest := after value rfl
    change Reads model config _ (next value)
    generalize next value = outcome at rest
    cases rest with
    | value _ laterFound result =>
      exact .value _ (List.forall_mem_append.mpr ⟨found, laterFound⟩) result
    | missing earlier lookup later laterFound absent =>
      rw [← List.append_assoc]
      exact .missing _ lookup later (List.forall_mem_append.mpr ⟨found, laterFound⟩) absent
  | missing earlier lookup later found absent =>
    rw [List.append_assoc]
    exact .missing earlier lookup (later ++ second) found absent

theorem map {lookups : List Lookup} {step : Outcome α} (reads : Reads model config lookups step)
    (change : α → β) : Reads model config lookups (step.map change) := by
  cases reads with
  | value _ found value => exact .value _ found _
  | missing before lookup after found absent => exact .missing before lookup after found absent

theorem secret (name identifier : String) (field : SecretField) :
    Reads model config [.secret identifier] (config.secretEnv name identifier field) := by
  unfold Configuration.secretEnv Configuration.secretVariable Configuration.secretSource
    Configuration.secretName
  split
  · rename_i secret held
    refine .value [.secret identifier] (fun other inside => ?_) _
    rw [List.mem_singleton.mp inside, Lookup.Found, held]
    rfl
  · rename_i none
    refine .missing [] (.secret identifier) [] (fun _ inside => absurd inside List.not_mem_nil) ?_
    simp [Lookup.Found, none]

theorem of_ok {outcome : Outcome α} (success : ∃ value, outcome = .ok value) :
    Reads model config [] outcome := by
  obtain ⟨value, rfl⟩ := success
  exact pure value

/-- There is a value exactly if every lookup finds something. -/
theorem exists_ok_iff {lookups : List Lookup} {outcome : Outcome α}
    (reads : Reads model config lookups outcome) :
    (∃ value, outcome = .ok value) ↔ ∀ lookup ∈ lookups, lookup.Found model config := by
  cases reads with
  | value _ found value => exact ⟨fun _ => found, fun _ => ⟨value, rfl⟩⟩
  | missing before lookup after found absent =>
    constructor
    · rintro ⟨value, same⟩
      cases same
    · intro all
      exact absurd (all lookup (by simp)) absent

/-- A failure is that of the first lookup that finds nothing. -/
theorem eq_error {lookups : List Lookup} {outcome : Outcome α} {error : Error}
    (reads : Reads model config lookups outcome) (failed : outcome = .error error) :
    ∃ lookup, Lookup.FirstAbsent model config lookups lookup ∧ error = lookup.error := by
  cases reads with
  | value => cases failed
  | missing before lookup after found absent =>
    cases failed
    exact ⟨lookup, ⟨before, after, rfl, found, absent⟩, rfl⟩

end Reads

end PlatformManifests
