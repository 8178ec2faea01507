import PlatformManifests.Proofs.Listing
import PlatformManifests.Proofs.Requirements

/-!
Components chosen by name. The choice fails on the first name that no component has, and otherwise
does not depend on the order of the names. What the chosen components compose to is a part of what
all of them compose to: no component needs another one to be there.
-/
namespace PlatformManifests

open Descriptor

variable {model : Model} {config : Configuration}

/-! ### The choice -/

namespace Generator

/-- The first of the names that no component has. -/
def FirstUnknown (names : List String) (unknown : String) : Prop :=
  ∃ before after, names = before ++ unknown :: after ∧
    (∀ name ∈ before, name ∈ Generator.names) ∧ unknown ∉ Generator.names

def unknownError (unknown : String) : Error :=
  .invalidConfiguration "only" ("unknown component '" ++ unknown
    ++ "', expected one of: " ++ String.intercalate ", " Generator.names)

theorem find?_eq_some_iff_firstUnknown {names : List String} {unknown : String} :
    names.find? (fun name => !Generator.names.contains name) = some unknown ↔
      FirstUnknown names unknown := by
  rw [List.find?_eq_some_iff_append]
  simp only [Bool.not_eq_eq_eq_not, Bool.not_true, List.contains_eq_mem, decide_eq_false_iff_not,
    Bool.not_not, decide_eq_true_eq, FirstUnknown]
  constructor
  · rintro ⟨alone, before, after, split, known⟩
    exact ⟨before, after, split, known, alone⟩
  · rintro ⟨before, after, split, known, alone⟩
    exact ⟨alone, before, after, split, known⟩

theorem names_nodup : Generator.names.Nodup := by decide +kernel

end Generator

theorem select_eq_ok {names : List String} (builtIn : ∀ name ∈ names, name ∈ Generator.names) :
    Generator.select names =
      .ok (Generator.all.filter fun generator => names.contains generator.component) := by
  have known : names.find? (fun name => !Generator.names.contains name) = none := by
    simpa using builtIn
  rw [Generator.select, known]

theorem select_eq_error_iff {names : List String} {error : Error} :
    Generator.select names = .error error ↔
      ∃ unknown, Generator.FirstUnknown names unknown ∧ error = Generator.unknownError unknown := by
  simp only [← Generator.find?_eq_some_iff_firstUnknown, Generator.select]
  cases found : names.find? fun name => !Generator.names.contains name with
  | none => simp
  | some unknown => simp [Generator.unknownError, eq_comm]

theorem exists_select_error_iff {names : List String} :
    (∃ error, Generator.select names = .error error) ↔ ∃ name ∈ names, name ∉ Generator.names := by
  constructor
  · rintro ⟨error, failed⟩
    obtain ⟨unknown, ⟨before, after, split, _, alone⟩, _⟩ := select_eq_error_iff.mp failed
    refine ⟨unknown, ?_, alone⟩
    rw [split]
    exact List.mem_append_right before List.mem_cons_self
  · rintro ⟨name, member, alone⟩
    have found : (names.find? fun other => !Generator.names.contains other).isSome := by
      apply List.find?_isSome.mpr
      exact ⟨name, member, by simpa using alone⟩
    obtain ⟨unknown, first⟩ := Option.isSome_iff_exists.mp found
    refine ⟨_, select_eq_error_iff.mpr ⟨unknown, ?_, rfl⟩⟩
    exact Generator.find?_eq_some_iff_firstUnknown.mp first

/-- A choice that does not fail has known names alone. -/
theorem eq_filter_of_select {names : List String} {generators : List Generator}
    (chosen : Generator.select names = .ok generators) :
    (∀ name ∈ names, name ∈ Generator.names) ∧
      generators = Generator.all.filter fun generator => names.contains generator.component := by
  have known : ∀ name ∈ names, name ∈ Generator.names := by
    intro name member
    by_contra alone
    obtain ⟨error, failed⟩ := exists_select_error_iff.mpr ⟨name, member, alone⟩
    rw [chosen] at failed
    cases failed
  refine ⟨known, ?_⟩
  rw [select_eq_ok known] at chosen
  exact (Except.ok.inj chosen).symm

theorem mem_components_of_select {names : List String} {generators : List Generator}
    (chosen : Generator.select names = .ok generators) (name : String) :
    name ∈ generators.map Generator.component ↔ name ∈ names := by
  obtain ⟨known, rfl⟩ := eq_filter_of_select chosen
  simp only [List.mem_map, List.mem_filter, List.contains_eq_mem, decide_eq_true_eq]
  constructor
  · rintro ⟨generator, ⟨_, member⟩, rfl⟩
    exact member
  · intro member
    obtain ⟨generator, listed, rfl⟩ := List.mem_map.mp (known name member)
    exact ⟨generator, ⟨listed, member⟩, rfl⟩

theorem sublist_of_select {names : List String} {generators : List Generator}
    (chosen : Generator.select names = .ok generators) : generators.Sublist Generator.all := by
  obtain ⟨_, rfl⟩ := eq_filter_of_select chosen
  exact List.filter_sublist

/-! ### What the chosen components make -/

/-- What the generator makes bears the name of its component. -/
def Generator.Attributes (model : Model) (config : Configuration) (generator : Generator) : Prop :=
  ∀ descriptor, generator.generate model config = .ok descriptor →
    descriptor.component = generator.component

theorem all_attribute (valid : config.validate = .ok ()) (modelValid : model.validate = .ok ()) :
    ∀ generator ∈ Generator.all, generator.Attributes model config := by
  rw [← map_generator_profiles]
  intro generator member
  obtain ⟨profile, listed, rfl⟩ := List.mem_map.mp member
  exact (profiles_kept valid modelValid profile listed).component_eq

/-- Generators chosen by component make what all of them make for these components. -/
theorem Generated.choose {generators : List Generator} {descriptors : List Descriptor}
    (all : Generated model config generators descriptors)
    (honest : ∀ generator ∈ generators, generator.Attributes model config)
    (chosen : String → Bool) :
    Generated model config (generators.filter fun generator => chosen generator.component)
      (descriptors.filter fun descriptor => chosen descriptor.component) := by
  have attributed := (List.forall₂_and_left _ _).mpr ⟨honest, all.made⟩
  refine ⟨?_, all.apart.filter _⟩
  refine (List.rel_filter ?_ attributed).imp fun _ _ made => made.2
  rintro generator descriptor ⟨attributes, made⟩
  change chosen generator.component = true ↔ chosen descriptor.component = true
  rw [attributes descriptor made]

theorem ResourceSet.IsUnion.restrict {set : ResourceSet} {descriptors : List Descriptor}
    (union : set.IsUnion descriptors) (components : List String) :
    (set.restrict components).IsUnion
      (descriptors.filter fun descriptor => components.contains descriptor.component) := by
  intro key owned
  rw [ResourceSet.restrict, Dict.get?_filter, Option.filter_eq_some_iff, union key owned]
  simp only [List.mem_filter]
  constructor
  · rintro ⟨⟨descriptor, member, same, held⟩, chosen⟩
    exact ⟨descriptor, ⟨member, same ▸ chosen⟩, same, held⟩
  · rintro ⟨descriptor, ⟨member, chosen⟩, same, held⟩
    exact ⟨⟨descriptor, member, same, held⟩, same ▸ chosen⟩

theorem compose_selected_eq_restrict {names : List String} {generators : List Generator}
    {set : ResourceSet} (composed : compose model config Generator.all = .ok set)
    (chosen : Generator.select names = .ok generators) :
    compose model config generators = .ok (set.restrict names) := by
  obtain ⟨valid, modelValid, descriptors, all, union⟩ := compose_eq_ok.mp composed
  obtain ⟨_, rfl⟩ := eq_filter_of_select chosen
  have part := all.choose (all_attribute valid modelValid) fun component => names.contains component
  exact compose_eq_ok.mpr ⟨valid, modelValid, _, part, union.restrict names⟩

/-! ### Selection is restriction -/

/-- Names are refused exactly if some component is unknown, and the first such one is told.
Otherwise each named component is chosen once, in the order of all components. If all components
compose to a set, then the chosen ones compose to its entries that belong to them, in the order
that these have in the set. -/
theorem compose_selected_restricts (model : Model) (config : Configuration)
    (names : List String) :
    (∀ error, Generator.select names = .error error ↔
      ∃ unknown, Generator.FirstUnknown names unknown ∧
        error = .invalidConfiguration "only" ("unknown component '" ++ unknown
          ++ "', expected one of: " ++ String.intercalate ", " Generator.names)) ∧
    ((∃ error, Generator.select names = .error error) ↔
      ∃ name ∈ names, name ∉ Generator.names) ∧
    (∀ generators, Generator.select names = .ok generators →
      generators.Sublist Generator.all ∧ (generators.map Generator.component).Nodup ∧
        ∀ name, name ∈ generators.map Generator.component ↔ name ∈ names) ∧
    ∀ set, compose model config Generator.all = .ok set →
      ∀ generators, Generator.select names = .ok generators →
        ∃ part, compose model config generators = .ok part ∧
          (∀ key owned, part.entries.get? key = some owned ↔
            set.entries.get? key = some owned ∧ owned.component ∈ names) ∧
          part.listing = set.listing.filter fun entry => entry.2.component ∈ names := by
  refine ⟨fun error => select_eq_error_iff, exists_select_error_iff, ?_, ?_⟩
  · intro generators chosen
    have sublist := sublist_of_select chosen
    refine ⟨sublist, ?_, mem_components_of_select chosen⟩
    exact Generator.names_nodup.sublist (sublist.map Generator.component)
  · intro set composed generators chosen
    refine ⟨set.restrict names, compose_selected_eq_restrict composed chosen, ?_, ?_⟩
    · intro key owned
      rw [ResourceSet.restrict, Dict.get?_filter, Option.filter_eq_some_iff, List.contains_iff_mem]
    · rw [ResourceSet.listing_restrict]
      simp only [List.contains_eq_mem]

/-- The order in which components are named, and how often, does not matter. -/
theorem compose_demonstration_restricted :
    ∃ set part, compose Model.standard Configuration.demonstration Generator.all = .ok set ∧
      compose Model.standard Configuration.demonstration [Cache.generator, InitJob.generator] =
        .ok part ∧
      part.listing = set.listing.filter fun entry =>
        entry.2.component ∈ ["init-job", "cache", "cache"] := by
  obtain ⟨set, composed⟩ := exists_compose_demonstration
  have chosen : Generator.select ["init-job", "cache", "cache"] =
      .ok [Cache.generator, InitJob.generator] := rfl
  obtain ⟨_, _, _, restricted⟩ := compose_selected_restricts Model.standard
    Configuration.demonstration ["init-job", "cache", "cache"]
  obtain ⟨part, done, _, listed⟩ := restricted set composed _ chosen
  exact ⟨set, part, composed, done, listed⟩

end PlatformManifests
