import Mathlib.Data.List.Induction
import Mathlib.Data.List.Perm.Basic
import PlatformManifests.Composition
import PlatformManifests.Proofs.Merge
import PlatformManifests.Proofs.Outcome

/-!
Composition of arbitrary generators. It gives the disjoint union of what the generators make, in
whatever order they are listed, or the first of the failures on the way to it.
-/
namespace PlatformManifests

open Descriptor

variable {model : Model} {config : Configuration}

/-- Each generator makes its descriptor, and no key is made twice. -/
structure Generated (model : Model) (config : Configuration) (generators : List Generator)
    (descriptors : List Descriptor) : Prop where
  made : List.Forall₂ (fun generator descriptor =>
    generator.generate model config = .ok descriptor) generators descriptors
  apart : descriptors.Pairwise Apart

/-- What may go wrong with one generator after those that made the earlier descriptors. -/
inductive StepFault (model : Model) (config : Configuration) (earlier : List Descriptor)
    (generator : Generator) : Error → Prop
  | generation (cause : Error) (failed : generator.generate model config = .error cause) :
      StepFault model config earlier generator (cause.inComponent generator.component)
  | clash (descriptor owner : Descriptor) (key : String)
      (made : generator.generate model config = .ok descriptor)
      (shared : LeastClash earlier descriptor key owner) :
      StepFault model config earlier generator
        (.duplicateResource key owner.component descriptor.component)

/-- The fault of the first generator that has one. -/
def FirstFault (model : Model) (config : Configuration) (generators : List Generator)
    (error : Error) : Prop :=
  ∃ before generator after descriptors, generators = before ++ generator :: after ∧
    Generated model config before descriptors ∧
    StepFault model config descriptors generator error

theorem exists_related {α β : Type} {relation : α → β → Prop} {firsts : List α}
    {seconds : List β} (related : List.Forall₂ relation firsts seconds) {first : α}
    (member : first ∈ firsts) : ∃ second ∈ seconds, relation first second := by
  induction related with
  | nil => exact absurd member List.not_mem_nil
  | cons head _ ih =>
    rcases List.mem_cons.mp member with rfl | later
    · exact ⟨_, List.mem_cons_self, head⟩
    · obtain ⟨second, inside, holds⟩ := ih later
      exact ⟨second, List.mem_cons_of_mem _ inside, holds⟩

namespace Generated

theorem nil : Generated model config [] [] := ⟨.nil, .nil⟩

theorem snoc {generators : List Generator} {descriptors : List Descriptor}
    (earlier : Generated model config generators descriptors) {generator : Generator}
    {descriptor : Descriptor} (made : generator.generate model config = .ok descriptor)
    (apart : ∀ former ∈ descriptors, former.Apart descriptor) :
    Generated model config (generators ++ [generator]) (descriptors ++ [descriptor]) := by
  refine ⟨List.rel_append earlier.made (.cons made .nil), List.pairwise_append.mpr ?_⟩
  refine ⟨earlier.apart, List.pairwise_singleton _ _, ?_⟩
  intro former member other last
  exact List.mem_singleton.mp last ▸ apart former member

theorem of_append {generators further : List Generator} {descriptors : List Descriptor}
    (all : Generated model config (generators ++ further) descriptors) :
    ∃ first second, descriptors = first ++ second ∧ Generated model config generators first ∧
      List.Forall₂ (fun generator descriptor => generator.generate model config = .ok descriptor)
        further second := by
  have split := List.take_append_drop generators.length descriptors
  have firstMade := List.forall₂_take generators.length all.made
  have secondMade := List.forall₂_drop generators.length all.made
  rw [List.take_left] at firstMade
  rw [List.drop_left] at secondMade
  have firstApart := (List.pairwise_append.mp (split.symm ▸ all.apart)).1
  exact ⟨_, _, split.symm, ⟨firstMade, firstApart⟩, secondMade⟩

theorem exists_descriptor {generators : List Generator} {descriptors : List Descriptor}
    (all : Generated model config generators descriptors) {generator : Generator}
    (member : generator ∈ generators) :
    ∃ descriptor ∈ descriptors, generator.generate model config = .ok descriptor :=
  exists_related all.made member

theorem exists_generator {generators : List Generator} {descriptors : List Descriptor}
    (all : Generated model config generators descriptors) {descriptor : Descriptor}
    (member : descriptor ∈ descriptors) :
    ∃ generator ∈ generators, generator.generate model config = .ok descriptor :=
  exists_related all.made.flip member

theorem perm {generators permuted : List Generator} {descriptors : List Descriptor}
    (all : Generated model config generators descriptors) (same : generators.Perm permuted) :
    ∃ others, descriptors.Perm others ∧ Generated model config permuted others := by
  obtain ⟨others, made, moved⟩ := List.perm_comp_forall₂ same.symm all.made
  refine ⟨others, moved.symm, made, ?_⟩
  exact (moved.symm.pairwise_iff fun apart => apart.symm).mp all.apart

end Generated

/-! ### One generator after the other -/

theorem addComponent_of_made {generator : Generator} {descriptor : Descriptor}
    (made : generator.generate model config = .ok descriptor) (set : ResourceSet) :
    addComponent model config set generator =
      (set.merge descriptor).1.map fun _ => (set.merge descriptor).2 := by
  rw [addComponent, Generator.run, made]
  dsimp only [Except.mapError, bind, Except.bind]
  cases set.merge descriptor with
  | mk outcome after => cases outcome <;> rfl

theorem addComponent_ok {set : ResourceSet} {descriptors : List Descriptor}
    (union : set.IsUnion descriptors) {generator : Generator} {descriptor : Descriptor}
    (made : generator.generate model config = .ok descriptor)
    (apart : ∀ former ∈ descriptors, former.Apart descriptor) :
    ∃ next, addComponent model config set generator = .ok next ∧
      next.IsUnion (descriptors ++ [descriptor]) := by
  obtain ⟨next, merged, nextUnion⟩ := ResourceSet.merge_eq_ok union apart
  refine ⟨next, ?_, nextUnion⟩
  rw [addComponent_of_made made, merged]
  rfl

theorem addComponent_error {set : ResourceSet} {descriptors : List Descriptor}
    (union : set.IsUnion descriptors) {generator : Generator} {error : Error}
    (fault : StepFault model config descriptors generator error) :
    addComponent model config set generator = .error error := by
  cases fault with
  | generation cause failed =>
    rw [addComponent, Generator.run, failed]
    rfl
  | clash descriptor owner key made shared =>
    rw [addComponent_of_made made, ResourceSet.merge_eq_error union shared]
    rfl

/-- The set built so far is the union of what was generated so far. -/
theorem foldlM_addComponent_ok {generators : List Generator} {descriptors : List Descriptor}
    (all : Generated model config generators descriptors) :
    ∃ set, generators.foldlM (addComponent model config) ∅ = .ok set ∧
      set.IsUnion descriptors := by
  induction generators using List.reverseRecOn generalizing descriptors with
  | nil =>
    cases all.made
    exact ⟨∅, rfl, ResourceSet.isUnion_empty⟩
  | append_singleton generators generator ih =>
    obtain ⟨first, second, rfl, earlier, last⟩ := all.of_append
    cases last with
    | cons made none =>
      cases none
      obtain ⟨set, built, union⟩ := ih earlier
      have apart := (List.pairwise_append.mp all.apart).2.2
      obtain ⟨next, added, nextUnion⟩ := addComponent_ok union made fun former member =>
        apart former member _ (List.mem_singleton.mpr rfl)
      refine ⟨next, ?_, nextUnion⟩
      simp only [List.foldlM_append, List.foldlM_cons, List.foldlM_nil, bind_pure, built]
      exact added

theorem foldlM_addComponent_error {generators : List Generator} {error : Error}
    (fault : FirstFault model config generators error) :
    generators.foldlM (addComponent model config) ∅ = .error error := by
  obtain ⟨before, generator, after, descriptors, rfl, earlier, fails⟩ := fault
  obtain ⟨set, built, union⟩ := foldlM_addComponent_ok earlier
  rw [List.foldlM_append, built]
  change List.foldlM (addComponent model config) set (generator :: after) = _
  rw [List.foldlM_cons, addComponent_error union fails]
  rfl

/-- One generator more: either everything is still generated, or there is a first fault. -/
theorem generated_or_firstFault (model : Model) (config : Configuration)
    (generators : List Generator) :
    (∃ descriptors, Generated model config generators descriptors) ∨
      ∃ error, FirstFault model config generators error := by
  induction generators using List.reverseRecOn with
  | nil => exact .inl ⟨[], .nil⟩
  | append_singleton generators generator ih =>
    rcases ih with ⟨descriptors, earlier⟩ | ⟨error, before, failing, after, rest⟩
    · have here : ∀ error, StepFault model config descriptors generator error →
          FirstFault model config (generators ++ [generator]) error := fun error fault =>
        ⟨generators, generator, [], descriptors, rfl, earlier, fault⟩
      cases outcome : generator.generate model config with
      | error cause => exact .inr ⟨_, here _ (.generation cause outcome)⟩
      | ok descriptor =>
        by_cases apart : ∀ former ∈ descriptors, former.Apart descriptor
        · exact .inl ⟨_, earlier.snoc outcome apart⟩
        · obtain ⟨key, owner, shared⟩ := exists_leastClash apart
          exact .inr ⟨_, here _ (.clash descriptor owner key outcome shared)⟩
    · obtain ⟨descriptors, rfl, earlier, fault⟩ := rest
      refine .inr ⟨error, before, failing, after ++ [generator], descriptors, ?_, earlier, fault⟩
      simp

theorem foldlM_addComponent_eq_ok {generators : List Generator} {set : ResourceSet} :
    generators.foldlM (addComponent model config) ∅ = .ok set ↔
      ∃ descriptors, Generated model config generators descriptors ∧ set.IsUnion descriptors := by
  constructor
  · intro built
    rcases generated_or_firstFault model config generators with
      ⟨descriptors, all⟩ | ⟨error, fault⟩
    · obtain ⟨other, same, union⟩ := foldlM_addComponent_ok all
      cases Except.ok.inj (same.symm.trans built)
      exact ⟨descriptors, all, union⟩
    · rw [foldlM_addComponent_error fault] at built
      cases built
  · rintro ⟨descriptors, all, union⟩
    obtain ⟨other, built, otherUnion⟩ := foldlM_addComponent_ok all
    rw [built, otherUnion.unique union]

theorem foldlM_addComponent_eq_error {generators : List Generator} {error : Error} :
    generators.foldlM (addComponent model config) ∅ = .error error ↔
      FirstFault model config generators error := by
  refine ⟨fun failed => ?_, foldlM_addComponent_error⟩
  rcases generated_or_firstFault model config generators with
    ⟨descriptors, all⟩ | ⟨other, fault⟩
  · obtain ⟨set, built, _⟩ := foldlM_addComponent_ok all
    rw [built] at failed
    cases failed
  · rw [foldlM_addComponent_error fault] at failed
    cases failed
    exact fault

/-! ### The whole composition -/

theorem compose_eq_ok {generators : List Generator} {set : ResourceSet} :
    compose model config generators = .ok set ↔
      config.validate = .ok () ∧ model.validate = .ok () ∧
        ∃ descriptors, Generated model config generators descriptors ∧
          set.IsUnion descriptors := by
  simp [compose, foldlM_addComponent_eq_ok]

theorem exists_compose_eq_ok {generators : List Generator} :
    (∃ set, compose model config generators = .ok set) ↔
      config.validate = .ok () ∧ model.validate = .ok () ∧
        ∃ descriptors, Generated model config generators descriptors := by
  constructor
  · rintro ⟨set, composed⟩
    obtain ⟨valid, modelValid, descriptors, all, _⟩ := compose_eq_ok.mp composed
    exact ⟨valid, modelValid, descriptors, all⟩
  · rintro ⟨valid, modelValid, descriptors, all⟩
    obtain ⟨set, built, union⟩ := foldlM_addComponent_ok all
    exact ⟨set, compose_eq_ok.mpr ⟨valid, modelValid, descriptors, all, union⟩⟩

theorem compose_eq_error {generators : List Generator} {error : Error} :
    compose model config generators = .error error ↔
      config.validate = .error error ∨
      config.validate = .ok () ∧ model.validate = .error error ∨
      config.validate = .ok () ∧ model.validate = .ok () ∧
        FirstFault model config generators error := by
  simp only [compose, Outcome.bind_eq_error, foldlM_addComponent_eq_error]
  constructor
  · rintro (first | ⟨_, valid, second | ⟨_, modelValid, fault⟩⟩)
    · exact .inl first
    · exact .inr (.inl ⟨valid, second⟩)
    · exact .inr (.inr ⟨valid, modelValid, fault⟩)
  · rintro (first | ⟨valid, second⟩ | ⟨valid, modelValid, fault⟩)
    · exact .inl first
    · exact .inr ⟨(), valid, .inl second⟩
    · exact .inr ⟨(), valid, .inr ⟨(), modelValid, fault⟩⟩

/-- Composition succeeds exactly when configuration and model are valid, every generator succeeds
and no key is made twice. It then gives the union of what was made, which no reordering of the
generators changes. Otherwise it gives the first failure: of the configuration, of the model, or
of the first generator that fails or makes a key anew. -/
theorem compose_disjoint_union_or_first_failure (model : Model) (config : Configuration)
    (generators : List Generator) :
    ((∃ set, compose model config generators = .ok set) ↔
      config.validate = .ok () ∧ model.validate = .ok () ∧
        ∃ descriptors, Generated model config generators descriptors) ∧
    (∀ set, compose model config generators = .ok set →
      (∃ descriptors, Generated model config generators descriptors ∧ set.IsUnion descriptors) ∧
      ∀ permuted, generators.Perm permuted → compose model config permuted = .ok set) ∧
    (∀ error, compose model config generators = .error error ↔
      config.validate = .error error ∨
      config.validate = .ok () ∧ model.validate = .error error ∨
      config.validate = .ok () ∧ model.validate = .ok () ∧
        FirstFault model config generators error) := by
  refine ⟨exists_compose_eq_ok, ?_, fun error => compose_eq_error⟩
  intro set composed
  obtain ⟨valid, modelValid, descriptors, all, union⟩ := compose_eq_ok.mp composed
  refine ⟨⟨descriptors, all, union⟩, fun permuted same => ?_⟩
  obtain ⟨others, moved, otherAll⟩ := all.perm same
  exact compose_eq_ok.mpr ⟨valid, modelValid, others, otherAll, union.perm moved⟩

end PlatformManifests
