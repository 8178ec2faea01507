import PlatformManifests.Model.Standard
import PlatformManifests.Proofs.Composition
import PlatformManifests.Proofs.Validation

/-!
Attribution of errors to components. An error that lacks its component takes the first one that it
is attributed to. From then on it is reported as it is, through however many compositions.
-/
namespace PlatformManifests

namespace Error

variable {error : Error}

/-- The error arose in a component, but which one is not known yet. -/
inductive Unattributed : Error → Prop
  | missingSecret (secret : String) : Unattributed (.missingSecret unknownComponent secret)
  | unresolvedField (field : String) : Unattributed (.unresolvedField unknownComponent field)

/-- The error with another component, for the same secret or field. -/
def withComponent (error : Error) (name : String) : Error :=
  match error with
  | .missingSecret _ secret => .missingSecret name secret
  | .unresolvedField _ field => .unresolvedField name field
  | .duplicateResource .. | .invalidRoute .. | .invalidConfiguration .. | .serialization .. =>
    error

/-! ### One attribution -/

theorem Unattributed.inComponent (lacks : error.Unattributed) (name : String) :
    error.inComponent name = error.withComponent name := by
  cases lacks <;> rfl

theorem inComponent_of_attributed (attributed : ¬ error.Unattributed) (name : String) :
    error.inComponent name = error := by
  cases error with
  | missingSecret component secret =>
    apply if_neg
    rintro rfl
    exact attributed (.missingSecret secret)
  | unresolvedField component field =>
    apply if_neg
    rintro rfl
    exact attributed (.unresolvedField field)
  | duplicateResource | invalidRoute | invalidConfiguration | serialization => rfl

theorem Unattributed.withComponent_unknown (lacks : error.Unattributed) :
    error.withComponent unknownComponent = error := by
  cases lacks <;> rfl

theorem Unattributed.attributed (lacks : error.Unattributed) {name : String}
    (known : name ≠ unknownComponent) : ¬ (error.withComponent name).Unattributed := by
  intro still
  cases lacks with
  | missingSecret secret =>
    cases still
    exact known rfl
  | unresolvedField field =>
    cases still
    exact known rfl

/-! ### Chains of attributions -/

theorem foldl_inComponent_of_attributed (attributed : ¬ error.Unattributed)
    (names : List String) : names.foldl inComponent error = error := by
  induction names with
  | nil => rfl
  | cons name rest ih => rw [List.foldl_cons, inComponent_of_attributed attributed, ih]

theorem Unattributed.foldl_inComponent (lacks : error.Unattributed) (names : List String) :
    names.foldl Error.inComponent error =
      (names.find? (· ≠ unknownComponent)).elim error error.withComponent := by
  induction names with
  | nil => rfl
  | cons name rest ih =>
    rw [List.foldl_cons, lacks.inComponent]
    -- The placeholder leaves the error as it is, and any other name settles it for good.
    by_cases unknown : name = unknownComponent
    · rw [List.find?_cons_of_neg (by simpa using unknown), unknown, lacks.withComponent_unknown]
      exact ih
    · rw [List.find?_cons_of_pos (by simpa using unknown)]
      exact foldl_inComponent_of_attributed (lacks.attributed unknown) rest

end Error

/-! ### Compositions -/

section Compositions

variable {model : Model} {config : Configuration} {generators : List Generator}

/-- All generators before the given one make their descriptors, and it fails with the error. -/
def FailsFirst (model : Model) (config : Configuration) (generators : List Generator)
    (generator : Generator) (error : Error) : Prop :=
  ∃ before after descriptors, generators = before ++ generator :: after ∧
    Generated model config before descriptors ∧ generator.generate model config = .error error

theorem FailsFirst.compose_eq {generator : Generator} {error : Error}
    (fails : FailsFirst model config generators generator error)
    (valid : config.validate = .ok ()) (modelValid : model.validate = .ok ()) :
    compose model config generators = .error (error.inComponent generator.component) := by
  obtain ⟨before, after, descriptors, split, earlier, failed⟩ := fails
  have fault : FirstFault model config generators (error.inComponent generator.component) :=
    ⟨before, generator, after, descriptors, split, earlier, .generation error failed⟩
  exact compose_eq_error.mpr (.inr (.inr ⟨valid, modelValid, fault⟩))

end Compositions

namespace Error

/-- An error that is attributed to one component after the other stays as it is, unless it lacks
its component. Then it takes the first name that is not the placeholder, if there is one, and
keeps its secret or field. So a composition reports an error that was attributed before, by an
inner composition for instance, without any change. -/
theorem attributed_once (error : Error) (names : List String) :
    (¬ error.Unattributed → names.foldl inComponent error = error) ∧
    (error.Unattributed → names.foldl inComponent error =
      (names.find? (· ≠ unknownComponent)).elim error error.withComponent) ∧
    (¬ error.Unattributed → ∀ model config generators generator,
      config.validate = .ok () → model.validate = .ok () →
      FailsFirst model config generators generator error →
      compose model config generators = .error error) := by
  refine ⟨fun attributed => foldl_inComponent_of_attributed attributed names,
    fun lacks => lacks.foldl_inComponent names, ?_⟩
  intro attributed model config generators generator valid modelValid fails
  rw [fails.compose_eq valid modelValid, inComponent_of_attributed attributed]

-- The placeholder may be offered as a name as well, and then settles nothing.
example : ["unknown", "cache", "database"].foldl inComponent (unresolvedFieldAt "ports.redis") =
    .unresolvedField "cache" "ports.redis" := by decide

-- The inner composition names the component, and the outer one keeps it.
example : compose .standard .demonstration [⟨"platform", fun model config =>
      (compose model config [⟨"cache", fun _ _ => .error (missingSecretOf "redis")⟩]).map
        fun _ => ⟨"platform", ∅⟩⟩] =
    .error (.missingSecret "cache" "redis") := by decide +kernel

end Error

end PlatformManifests
