import PlatformManifests.Proofs.Arguments
import PlatformManifests.Proofs.Commands
import PlatformManifests.Proofs.Formats
import PlatformManifests.Proofs.Headers
import PlatformManifests.Proofs.History

/-!
Validation agrees with rendering. The two commands take the same files and fail with the same
report, and what the one counts the other one writes. What passes validation can be rendered for
any choice of components.
-/
namespace PlatformManifests

/-! ### Kinds of documents -/

/-- The kind that a document names. -/
def Json.kind? (document : Json) : Option String :=
  match document.member? "kind" with
  | some (.str name) => some name
  | _ => none

theorem Resource.kind?_toJson (resource : Resource) :
    resource.toJson.kind? = some resource.declared.2 := by
  rw [Json.kind?, resource.heads.kind]

namespace ResourceSet

/-- Every resource says of which kind it is. -/
def Honest (set : ResourceSet) : Prop :=
  ∀ key resource, set.get? key = some resource → resource.declared.2 = resource.kind.name

theorem honest_of_composed {model : Model} {config : Configuration} {set : ResourceSet}
    (composed : compose model config Generator.all = .ok set) : set.Honest := by
  intro key resource given
  obtain ⟨_, _, _, _, origin⟩ := exists_origin composed (fun _ listed => listed) given
  exact congrArg Prod.snd origin.signed.declared

/-- Documents are counted by the kinds that they name as resources are by the kinds that they
have. -/
theorem countP_documents {set : ResourceSet} (honest : set.Honest) (kinds : List Kind) :
    (set.documents.countP fun document =>
      document.kind? ∈ kinds.map fun kind => some kind.name) =
      set.entries.values.countP fun owned => owned.resource.kind ∈ kinds := by
  rw [documents, List.countP_map, Dict.values, List.countP_map, set.listing_perm.countP_eq]
  refine List.countP_congr fun entry listed => ?_
  have given : set.get? entry.1 = some entry.2.resource :=
    Option.map_eq_some_iff.mpr ⟨_, Dict.get?_eq_some_iff.mpr listed, rfl⟩
  simp only [Function.comp_apply, decide_eq_true_eq, Resource.kind?_toJson,
    honest _ _ given, List.mem_map, Option.some.injEq, Kind.name_inj, exists_eq_right]

theorem workloadCount_eq_countP {set : ResourceSet} (honest : set.Honest) :
    set.workloadCount = set.documents.countP fun document =>
      document.kind? ∈ [some "StatefulSet", some "Deployment", some "Job"] := by
  have counted := countP_documents honest Kind.workloads
  simp only [Kind.mem_workloads, Bool.decide_eq_true] at counted
  exact counted.symm

theorem countKind_ingress_eq_countP {set : ResourceSet} (honest : set.Honest) :
    set.countKind Kind.ingress.name =
      set.documents.countP fun document => document.kind? ∈ [some "Ingress"] := by
  have counted := countP_documents honest [.ingress]
  simp only [List.mem_singleton, ← @Kind.name_inj _ .ingress] at counted
  exact counted.symm

end ResourceSet

namespace CommandLine

namespace Store

variable {σ : Type} (store : Store σ) (state : σ) (config : String) (model : Option String)
  (fallback : Option String)

/-! ### The two commands -/

/-- The report of validating the files at the paths. -/
def checked : Report :=
  (store.run state ("validate" :: inputs config model) fallback).1

/-- The report of rendering the files at the paths, for the components of the groups or for all. -/
def shown (groups : List (List String)) (format : Option Format) : Report :=
  (store.run state ("render" :: (inputs config model ++ (selection groups ++ style format)))
    fallback).1

theorem checked_eq :
    store.checked state config model fallback =
      if arePaths config model then
        report ((store.composed state config model []).map (Report.summary config))
      else .ofStop .misused := by
  have named := ofArguments_validate config model fallback
  rw [checked]
  split at named
  · rw [store.run_of_yields state named (store.run_validate state config model), if_pos ‹_›]
  · rw [store.run_of_stop state named, if_neg ‹_›]

theorem shown_eq {groups : List (List String)} (listable : ∀ group ∈ groups, Listable group)
    (format : Option Format) :
    store.shown state config model fallback groups format =
      if arePaths config model then
        report ((store.composed state config model groups.flatten).map
          (rendered (format.getD .yaml)))
      else .ofStop .misused := by
  have named := ofArguments_render listable config model format fallback
  rw [shown]
  split at named
  · rw [store.run_of_yields state named (store.run_render state config model _ _), if_pos ‹_›]
  · rw [store.run_of_stop state named, if_neg ‹_›]

theorem shown_all_eq (format : Option Format) :
    store.shown state config model fallback [] format =
      if arePaths config model then
        report ((store.composed state config model []).map (rendered (format.getD .yaml)))
      else .ofStop .misused :=
  store.shown_eq state config model fallback (List.forall_mem_nil Listable) format

variable {store state config model fallback}

theorem exitCode_report {outcome : Except Failure ResourceSet} {tell : ResourceSet → String} :
    (report (outcome.map tell)).exitCode = 0 ↔ ∃ set, outcome = .ok set := by
  cases outcome with
  | ok set => exact ⟨fun _ => ⟨set, rfl⟩, fun _ => rfl⟩
  | error failure =>
    constructor
    · intro done
      cases done
    · rintro ⟨set, done⟩
      cases done

/-- What all components compose to has the part of any components that are named. -/
theorem composed_restrict {names : List String} {set : ResourceSet}
    (done : store.composed state config model [] = .ok set) (several : names ≠ [])
    (known : ∀ name ∈ names, name ∈ Generator.names) :
    store.composed state config model names = .ok (set.restrict names) := by
  have chosen := select_eq_ok known
  rw [composed] at done ⊢
  obtain ⟨settings, read, done⟩ := Outcome.bind_eq_ok.mp done
  obtain ⟨platform, modelRead, done⟩ := Outcome.bind_eq_ok.mp done
  have all := mapError_eq_ok.mp done
  have part := compose_selected_eq_restrict all chosen
  have choice : chosenGenerators names = Generator.select names :=
    if_neg (mt List.isEmpty_iff.mp several)
  rw [read, modelRead, choice, chosen]
  exact mapError_eq_ok.mpr part

theorem exists_compose_of_composed {set : ResourceSet}
    (done : store.composed state config model [] = .ok set) :
    ∃ model config, compose model config Generator.all = .ok set := by
  rw [composed] at done
  obtain ⟨settings, _, done⟩ := Outcome.bind_eq_ok.mp done
  obtain ⟨platform, _, done⟩ := Outcome.bind_eq_ok.mp done
  exact ⟨platform, settings, mapError_eq_ok.mp done⟩

/-- Whatever known components are named, their part of a composed set is rendered. -/
theorem exitCode_shown_of_known {groups : List (List String)} {set : ResourceSet}
    (paths : arePaths config model) (done : store.composed state config model [] = .ok set)
    (several : groups ≠ [])
    (known : ∀ group ∈ groups, group ≠ [] ∧ ∀ name ∈ group, name ∈ Generator.names)
    (format : Option Format) :
    (store.shown state config model fallback groups format).exitCode = 0 := by
  have listable : ∀ group ∈ groups, Listable group := fun group listed =>
    listable_of_known (known group listed).1 (known group listed).2
  have named : groups.flatten ≠ [] := by
    obtain ⟨group, rest, rfl⟩ := List.exists_cons_of_ne_nil several
    exact List.append_ne_nil_of_left_ne_nil (known group List.mem_cons_self).1 _
  have each : ∀ name ∈ groups.flatten, name ∈ Generator.names := by
    intro name inside
    obtain ⟨group, listed, member⟩ := List.mem_flatten.mp inside
    exact (known group listed).2 name member
  rw [shown_eq store state config model fallback listable, if_pos paths]
  exact exitCode_report.mpr ⟨_, composed_restrict done named each⟩

/-! ### Agreement -/

/-- For all contents of the files and all paths, validation succeeds if and only if rendering does,
in each format, and if one fails then the other one ends with the same report. What passes
validation can be rendered for any known components that are named, in one or more groups. The
numbers that validation prints are those of the documents that rendering writes: of all, of those
that are workloads, and of those that are routes. -/
theorem validation_agrees_with_rendering (store : Store σ) (state : σ) (config : String)
    (model : Option String) (fallback : Option String) :
    (∀ format,
      ((store.checked state config model fallback).exitCode = 0 ↔
        (store.shown state config model fallback [] format).exitCode = 0) ∧
      ((store.checked state config model fallback).exitCode ≠ 0 →
        store.shown state config model fallback [] format =
          store.checked state config model fallback)) ∧
    ((store.checked state config model fallback).exitCode = 0 →
      (∀ groups : List (List String), groups ≠ [] →
        (∀ group ∈ groups, group ≠ [] ∧ ∀ name ∈ group, name ∈ Generator.names) →
          ∀ format, (store.shown state config model fallback groups format).exitCode = 0) ∧
      ∃ documents : List Json,
        (store.shown state config model fallback [] none).output = Yaml.printAll documents ∧
        (store.shown state config model fallback [] (some .yaml)).output =
          Yaml.printAll documents ∧
        Json.read? (store.shown state config model fallback [] (some .json)).output =
          some (.array documents) ∧
        (store.checked state config model fallback).output = String.intercalate "\n" [
          "Configuration: " ++ config,
          "Resources:     " ++ toString documents.length,
          "Workloads:     " ++ toString (documents.countP fun document =>
            document.kind? ∈ [some "StatefulSet", some "Deployment", some "Job"]),
          "Routes:        " ++ toString (documents.countP fun document =>
            document.kind? ∈ [some "Ingress"]),
          "",
          "All validations passed",
          ""]) := by
  rw [store.checked_eq]
  have all := store.shown_all_eq state config model fallback
  by_cases paths : arePaths config model
  · simp only [if_pos paths] at all ⊢
    refine ⟨fun format => ?_, fun passed => ?_⟩
    · rw [all]
      refine ⟨exitCode_report.trans exitCode_report.symm, fun failed => ?_⟩
      cases done : store.composed state config model [] with
      | error failure => rfl
      | ok set => exact absurd (exitCode_report.mpr ⟨set, done⟩) failed
    · obtain ⟨set, done⟩ := exitCode_report.mp passed
      obtain ⟨_, _, composed⟩ := exists_compose_of_composed done
      have honest := ResourceSet.honest_of_composed composed
      refine ⟨fun groups several known format => ?_, set.documents, ?_, ?_, ?_, ?_⟩
      · exact exitCode_shown_of_known paths done several known format
      · rw [all, done]
        rfl
      · rw [all, done]
        rfl
      · rw [all, done]
        exact set.read?_toJson
      · rw [done, ← ResourceSet.workloadCount_eq_countP honest,
          ← ResourceSet.countKind_ingress_eq_countP honest, ResourceSet.length_documents]
        rfl
  · simp only [if_neg paths] at all ⊢
    refine ⟨fun format => ?_, fun passed => absurd passed (by decide)⟩
    rw [all]
    exact ⟨Iff.rfl, fun _ => rfl⟩

theorem demonstration_validation_agrees :
    (FileTree.store.checked FileTree.demonstration "deployment.yaml" none none).exitCode = 0 ∧
    (FileTree.store.shown FileTree.demonstration "deployment.yaml" none none [] none).exitCode = 0 ∧
    (FileTree.store.shown FileTree.demonstration "deployment.yaml" none none
      [["cache", "init-job"], ["cache"]] (some .json)).exitCode = 0 ∧
    ∃ documents : List Json,
      Json.read? (FileTree.store.shown FileTree.demonstration "deployment.yaml" none none []
        (some .json)).output = some (.array documents) ∧
      (FileTree.store.checked FileTree.demonstration "deployment.yaml" none none).output =
        String.intercalate "\n" [
          "Configuration: deployment.yaml",
          "Resources:     " ++ toString documents.length,
          "Workloads:     " ++ toString (documents.countP fun document =>
            document.kind? ∈ [some "StatefulSet", some "Deployment", some "Job"]),
          "Routes:        " ++ toString (documents.countP fun document =>
            document.kind? ∈ [some "Ingress"]),
          "",
          "All validations passed",
          ""] := by
  obtain ⟨agree, counted⟩ := validation_agrees_with_rendering FileTree.store FileTree.demonstration
    "deployment.yaml" none none
  have passed : (FileTree.store.checked FileTree.demonstration "deployment.yaml" none none).exitCode =
      0 := by
    obtain ⟨set, composed⟩ := FileTree.exists_composed_demonstration
    rw [checked_eq, if_pos (by decide), composed]
    rfl
  obtain ⟨selected, documents, _, _, listed, told⟩ := counted passed
  exact ⟨passed, (agree none).1.mp passed, selected _ (by decide) (by decide +kernel) (some .json),
    documents, listed, told⟩

end Store

end CommandLine

end PlatformManifests
