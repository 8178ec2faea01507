import Mathlib.Data.List.Nodup
import PlatformManifests.Descriptor
import PlatformManifests.Proofs.Dictionary
import PlatformManifests.Proofs.Outcome

/-!
Keys and descriptors. A key says no more and no less than kind and name, and a list of resources
makes a descriptor exactly when no two of them have the same key.
-/
namespace PlatformManifests

/-! ### Keys -/

theorem append_cons_inj {α : Type} {mark : α} {first second restOfFirst restOfSecond : List α}
    (firstFree : mark ∉ first) (secondFree : mark ∉ second) :
    first ++ mark :: restOfFirst = second ++ mark :: restOfSecond ↔
      first = second ∧ restOfFirst = restOfSecond := by
  induction first generalizing second with
  | nil =>
    cases second with
    | nil => simp
    | cons head tail => simp_all
  | cons head tail ih =>
    cases second with
    | nil => simp_all [eq_comm]
    | cons other others =>
      simp only [List.mem_cons, not_or] at firstFree secondFree
      simp [ih firstFree.2 secondFree.2, and_assoc]

theorem append_cons_inj_right {α : Type} {mark : α} {first second restOfFirst restOfSecond : List α}
    (firstFree : mark ∉ restOfFirst) (secondFree : mark ∉ restOfSecond) :
    first ++ mark :: restOfFirst = second ++ mark :: restOfSecond ↔
      first = second ∧ restOfFirst = restOfSecond := by
  have turned := @append_cons_inj _ mark restOfFirst.reverse restOfSecond.reverse first.reverse
    second.reverse (by rwa [List.mem_reverse]) (by rwa [List.mem_reverse])
  rw [List.reverse_inj, List.reverse_inj] at turned
  rw [← List.reverse_inj, and_comm, ← turned]
  simp

namespace Kind

theorem slash_not_mem_keyName (kind : Kind) : '/' ∉ kind.keyName.toList := by
  cases kind <;> decide

theorem keyName_inj {first second : Kind} : first.keyName = second.keyName ↔ first = second := by
  cases first <;> cases second <;> decide

/-- The key of a resource of a kind with a name. -/
def keyOf (kind : Kind) (name : String) : String := kind.keyName ++ "/" ++ name

theorem keyOf_inj {first second : Kind} {name other : String} :
    first.keyOf name = second.keyOf other ↔ first = second ∧ name = other := by
  have split := @append_cons_inj _ _ _ _ name.toList other.toList
    first.slash_not_mem_keyName second.slash_not_mem_keyName
  simpa [keyOf, ← String.toList_inj, String.toList_append, ← keyName_inj] using split

end Kind

namespace Resource

theorem key_eq (resource : Resource) : resource.key = resource.kind.keyOf resource.name := rfl

/-- Resources have the same key exactly if they have the same kind and the same name. -/
theorem key_inj {first second : Resource} :
    first.key = second.key ↔ first.kind = second.kind ∧ first.name = second.name := by
  rw [key_eq, key_eq, Kind.keyOf_inj]

def identity (resource : Resource) : Kind × String := (resource.kind, resource.name)

end Resource

/-! ### Descriptors -/

namespace Descriptor

theorem get?_insert_key {held : Dict Resource} {added : Resource}
    (fresh : held.get? added.key = none) {key : String} {resource : Resource} :
    (held.insert added.key added).get? key = some resource ↔
      held.get? key = some resource ∨ resource = added ∧ resource.key = key := by
  rw [Dict.get?_insert]
  split
  · rename_i same
    subst same
    simp only [Option.some.injEq, fresh, reduceCtorEq, false_or]
    constructor
    · rintro rfl
      exact ⟨rfl, rfl⟩
    · rintro ⟨rfl, _⟩
      rfl
  · rename_i differ
    constructor
    · exact .inl
    · rintro (found | ⟨rfl, same⟩)
      · exact found
      · exact absurd same.symm differ

theorem free_insert_iff {held : Dict Resource} {added : Resource} {resources : List Resource} :
    (∀ resource ∈ resources, (held.insert added.key added).get? resource.key = none) ↔
      (∀ resource ∈ resources, held.get? resource.key = none) ∧
        ∀ resource ∈ resources, resource.key ≠ added.key := by
  simp only [Dict.get?_insert, ← forall_and]
  refine forall₂_congr fun resource _ => ?_
  by_cases same : resource.key = added.key <;> simp [same]

theorem addAll_cons {component : String} {held : Dict Resource} {first : Resource}
    {rest : List Resource} (fresh : held.get? first.key = none) :
    addAll component held (first :: rest) =
      addAll component (held.insert first.key first) rest := by
  rw [addAll, if_neg (by simp [Dict.contains, fresh])]

theorem exists_addAll {component : String} {resources : List Resource} {held : Dict Resource}
    (free : ∀ resource ∈ resources, held.get? resource.key = none)
    (distinct : (resources.map Resource.key).Nodup) :
    ∃ collected, addAll component held resources = .ok collected := by
  induction resources generalizing held with
  | nil => exact ⟨held, rfl⟩
  | cons first rest ih =>
    obtain ⟨fresh, restFree⟩ := List.forall_mem_cons.mp free
    obtain ⟨alone, restDistinct⟩ := List.nodup_cons.mp distinct
    rw [addAll_cons fresh]
    refine ih (free_insert_iff.mpr ⟨restFree, ?_⟩) restDistinct
    intro resource inside same
    exact alone (same ▸ List.mem_map_of_mem inside)

/-- Adding succeeds exactly if no key is taken and none comes twice, and then all is held. -/
theorem addAll_eq_ok {component : String} {resources : List Resource}
    {held collected : Dict Resource} :
    addAll component held resources = .ok collected ↔
      (∀ resource ∈ resources, held.get? resource.key = none) ∧
      (resources.map Resource.key).Nodup ∧
      ∀ key resource, collected.get? key = some resource ↔
        held.get? key = some resource ∨ resource ∈ resources ∧ resource.key = key := by
  induction resources generalizing held with
  | nil =>
    simp only [addAll, Except.ok.injEq, List.not_mem_nil, false_and, or_false, List.map_nil,
      List.nodup_nil, true_and, false_implies, implies_true]
    constructor
    · rintro rfl key resource
      rfl
    · intro same
      exact (Dict.ext_get? fun key => Option.ext fun resource => same key resource).symm
  | cons first rest ih =>
    rw [addAll]
    by_cases taken : held.contains first.key
    · have occupied : held.get? first.key ≠ none := by
        simpa [Dict.contains, Option.isSome_iff_ne_none] using taken
      rw [if_pos taken]
      simp [occupied]
    · have fresh : held.get? first.key = none := by
        simpa [Dict.contains] using taken
      rw [if_neg taken, ih, free_insert_iff]
      simp only [get?_insert_key fresh, List.mem_cons, forall_eq_or_imp, fresh, true_and,
        List.map_cons, List.nodup_cons, List.mem_map, not_exists, not_and, or_and_right, or_assoc]
      constructor
      · rintro ⟨⟨free, alone⟩, distinct, all⟩
        exact ⟨free, ⟨alone, distinct⟩, all⟩
      · rintro ⟨free, ⟨alone, distinct⟩, all⟩
        exact ⟨⟨free, alone⟩, distinct, all⟩

/-- The descriptor holds the resources by their keys, and nothing else. -/
def Lists (descriptor : Descriptor) (resources : List Resource) : Prop :=
  ∀ key resource, descriptor.get? key = some resource ↔ resource ∈ resources ∧ resource.key = key

theorem ofResources_eq_ok {component : String} {resources : List Resource}
    {descriptor : Descriptor} :
    ofResources component resources = .ok descriptor ↔
      descriptor.component = component ∧ (resources.map Resource.key).Nodup ∧
        descriptor.Lists resources := by
  have start : ∀ key, (∅ : Dict Resource).get? key = none := Dict.get?_empty
  simp only [ofResources, Outcome.map_eq_ok, addAll_eq_ok, start, implies_true, true_and,
    reduceCtorEq, false_or]
  constructor
  · rintro ⟨collected, ⟨distinct, all⟩, rfl⟩
    exact ⟨rfl, distinct, all⟩
  · rintro ⟨rfl, distinct, all⟩
    exact ⟨descriptor.resources, ⟨distinct, all⟩, rfl⟩

theorem forall_of_listed {holds : Resource → Prop} {component : String}
    {resources : List Resource} {descriptor : Descriptor}
    (listed : ofResources component resources = .ok descriptor)
    (each : ∀ resource ∈ resources, holds resource) (key : String) (resource : Resource)
    (held : descriptor.get? key = some resource) : holds resource := by
  have lists := (ofResources_eq_ok.mp listed).2.2
  exact each resource ((lists key resource).mp held).1

theorem exists_ofResources_iff {component : String} {resources : List Resource} :
    (∃ descriptor, ofResources component resources = .ok descriptor) ↔
      (resources.map Resource.key).Nodup := by
  constructor
  · rintro ⟨descriptor, made⟩
    exact (ofResources_eq_ok.mp made).2.1
  · intro distinct
    obtain ⟨collected, added⟩ := exists_addAll (fun _ _ => Dict.get?_empty _) distinct
    exact ⟨⟨component, collected⟩, by rw [ofResources, added]; rfl⟩

theorem exists_ofResources {component : String} {resources : List Resource}
    (distinct : (resources.map Resource.identity).Nodup) :
    ∃ descriptor, ofResources component resources = .ok descriptor := by
  apply exists_ofResources_iff.mpr
  rw [List.Nodup, List.pairwise_map] at distinct ⊢
  refine distinct.imp fun differ same => differ ?_
  exact Prod.ext (Resource.key_inj.mp same).1 (Resource.key_inj.mp same).2

theorem Lists.mem_keys {descriptor : Descriptor} {resources : List Resource}
    (lists : descriptor.Lists resources) {key : String} :
    key ∈ descriptor.resources.keys ↔
      ∃ object ∈ resources.map Resource.identity, object.1.keyOf object.2 = key := by
  rw [Dict.mem_keys]
  constructor
  · rintro ⟨resource, held⟩
    obtain ⟨inside, same⟩ := (lists key resource).mp held
    exact ⟨_, List.mem_map_of_mem inside, same⟩
  · rintro ⟨object, member, same⟩
    obtain ⟨resource, inside, rfl⟩ := List.mem_map.mp member
    exact ⟨resource, (lists key resource).mpr ⟨inside, same⟩⟩

end Descriptor

end PlatformManifests
