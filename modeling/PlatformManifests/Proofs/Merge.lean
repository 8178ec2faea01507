import PlatformManifests.Proofs.Dictionary
import PlatformManifests.Proofs.Outcome
import PlatformManifests.ResourceSet

/-!
Merging descriptors. A set that holds the union of some descriptors takes in a further one if it
shares no key with them. Otherwise the least shared key is reported, with the component that had
it first, and the set is left as it is.
-/
namespace PlatformManifests

namespace Descriptor

/-- No key is in both. -/
def Apart (first second : Descriptor) : Prop :=
  first.resources.keys.Disjoint second.resources.keys

theorem Apart.symm {first second : Descriptor} (apart : first.Apart second) :
    second.Apart first :=
  List.disjoint_symm apart

theorem Apart.get?_eq_none {first second : Descriptor} (apart : first.Apart second)
    {key : String} {resource : Resource} (held : first.get? key = some resource) :
    second.get? key = none := by
  have inside : key ∈ first.resources.keys := Dict.mem_keys.mpr ⟨resource, held⟩
  exact Dict.not_mem_keys.mp fun shared => apart inside shared

/-- The least key that a descriptor shares with earlier ones, and an earlier one that has it. -/
structure LeastClash (earlier : List Descriptor) (descriptor : Descriptor) (key : String)
    (owner : Descriptor) : Prop where
  inside : key ∈ descriptor.resources.keys
  owned : owner ∈ earlier
  taken : key ∈ owner.resources.keys
  least : ∀ other ∈ descriptor.resources.keys, ∀ former ∈ earlier,
    other ∈ former.resources.keys → key ≤ other

theorem exists_leastClash {earlier : List Descriptor} {descriptor : Descriptor}
    (clash : ¬ ∀ former ∈ earlier, former.Apart descriptor) :
    ∃ key owner, LeastClash earlier descriptor key owner := by
  have shared : ∃ key ∈ descriptor.resources.keys,
      ∃ former ∈ earlier, key ∈ former.resources.keys := by
    by_contra none
    refine clash fun former member key inFormer inside => ?_
    exact none ⟨key, inside, former, member, inFormer⟩
  obtain ⟨key, inside, ⟨owner, member, taken⟩, least⟩ :=
    exists_least_of_ascending descriptor.resources.keys_ascending shared
  refine ⟨key, owner, inside, member, taken, ?_⟩
  intro other otherInside former formerMember inFormer
  exact least other otherInside ⟨former, formerMember, inFormer⟩

end Descriptor

namespace ResourceSet

open Descriptor

/-- The set holds the resources of the descriptors, each with the component of its descriptor, and
nothing else. -/
def IsUnion (set : ResourceSet) (descriptors : List Descriptor) : Prop :=
  ∀ key owned, set.entries.get? key = some owned ↔
    ∃ descriptor ∈ descriptors,
      descriptor.component = owned.component ∧ descriptor.get? key = some owned.resource

theorem isUnion_empty : (∅ : ResourceSet).IsUnion [] := by
  intro key owned
  simp [EmptyCollection.emptyCollection, empty, Dict.empty, Dict.get?]

theorem IsUnion.unique {first second : ResourceSet} {descriptors : List Descriptor}
    (firstUnion : first.IsUnion descriptors) (secondUnion : second.IsUnion descriptors) :
    first = second := by
  have same : first.entries = second.entries := by
    refine Dict.ext_get? fun key => Option.ext fun owned => ?_
    rw [firstUnion key owned, secondUnion key owned]
  cases first
  cases second
  exact congrArg ResourceSet.mk same

theorem IsUnion.perm {set : ResourceSet} {descriptors permuted : List Descriptor}
    (union : set.IsUnion descriptors) (same : descriptors.Perm permuted) :
    set.IsUnion permuted := by
  intro key owned
  simp only [union key owned, same.mem_iff]

theorem IsUnion.mem_keys {set : ResourceSet} {descriptors : List Descriptor}
    (union : set.IsUnion descriptors) {key : String} :
    key ∈ set.entries.keys ↔ ∃ descriptor ∈ descriptors, key ∈ descriptor.resources.keys := by
  simp only [Dict.mem_keys]
  constructor
  · rintro ⟨owned, held⟩
    obtain ⟨descriptor, member, _, found⟩ := (union key owned).mp held
    exact ⟨descriptor, member, owned.resource, found⟩
  · rintro ⟨descriptor, member, resource, found⟩
    exact ⟨⟨descriptor.component, resource⟩, (union key _).mpr ⟨descriptor, member, rfl, found⟩⟩

theorem mem_keys_iff {set : ResourceSet} {key : String} :
    key ∈ set.entries.keys ↔ ∃ resource, set.get? key = some resource := by
  simp only [get?, Option.map_eq_some_iff, Dict.mem_keys]
  constructor
  · rintro ⟨owned, held⟩
    exact ⟨owned.resource, owned, held, rfl⟩
  · rintro ⟨_, owned, held, _⟩
    exact ⟨owned, held⟩

theorem IsUnion.get?_eq_some_iff {set : ResourceSet} {descriptors : List Descriptor}
    (union : set.IsUnion descriptors) {key : String} {resource : Resource} :
    set.get? key = some resource ↔
      ∃ descriptor ∈ descriptors, descriptor.get? key = some resource := by
  simp only [get?, Option.map_eq_some_iff, union _ _]
  constructor
  · rintro ⟨owned, ⟨descriptor, member, _, held⟩, rfl⟩
    exact ⟨descriptor, member, held⟩
  · rintro ⟨descriptor, member, held⟩
    exact ⟨⟨descriptor.component, resource⟩, ⟨descriptor, member, rfl, held⟩, rfl⟩

theorem IsUnion.componentOf?_eq_some_iff {set : ResourceSet} {descriptors : List Descriptor}
    (union : set.IsUnion descriptors) {key component : String} :
    set.componentOf? key = some component ↔
      ∃ descriptor ∈ descriptors,
        descriptor.component = component ∧ key ∈ descriptor.resources.keys := by
  simp only [componentOf?, Option.map_eq_some_iff, union _ _, Dict.mem_keys]
  constructor
  · rintro ⟨owned, ⟨descriptor, member, same, held⟩, rfl⟩
    exact ⟨descriptor, member, same, owned.resource, held⟩
  · rintro ⟨descriptor, member, same, resource, held⟩
    exact ⟨⟨component, resource⟩, ⟨descriptor, member, same, held⟩, rfl⟩

/-! ### Clashes -/

theorem clash?_eq_none {set : ResourceSet} {descriptors : List Descriptor}
    (union : set.IsUnion descriptors) {descriptor : Descriptor}
    (apart : ∀ former ∈ descriptors, former.Apart descriptor) :
    set.clash? descriptor = none := by
  refine List.findSome?_eq_none_iff.mpr fun key inside => ?_
  rw [Option.map_eq_none_iff, ← Dict.not_mem_keys, union.mem_keys]
  rintro ⟨former, member, taken⟩
  exact apart former member taken inside

theorem clash?_eq_some {set : ResourceSet} {descriptors : List Descriptor}
    (union : set.IsUnion descriptors) {descriptor owner : Descriptor} {key : String}
    (clash : LeastClash descriptors descriptor key owner) :
    set.clash? descriptor = some (key, owner.component) := by
  obtain ⟨resource, held⟩ := Dict.mem_keys.mp clash.taken
  have owned : set.entries.get? key = some ⟨owner.component, resource⟩ :=
    (union key _).mpr ⟨owner, clash.owned, rfl, held⟩
  refine findSome?_eq_some_of_ascending descriptor.resources.keys_ascending clash.inside
    (by rw [owned]; rfl) fun other inside taken => ?_
  obtain ⟨former, member, inFormer⟩ := union.mem_keys.mp (Dict.mem_keys.mpr
    (Option.isSome_iff_exists.mp (by simpa using taken)))
  exact clash.least other inside former member inFormer

/-! ### Changes, and what they leave -/

theorem run_check (set : ResourceSet) (descriptor : Descriptor) :
    (check descriptor).run.run set =
      (match set.clash? descriptor with
        | some (key, owner) => .error (.duplicateResource key owner descriptor.component)
        | none => .ok (), set) := by
  change (match set.clash? descriptor with
    | some (key, owner) =>
      (throw (Error.duplicateResource key owner descriptor.component) : Change Unit)
    | none => pure ()).run.run set = _
  cases set.clash? descriptor <;> rfl

/-- The entries with further resources of a component. -/
def addAll (component : String) (entries : Dict OwnedResource)
    (resources : List (String × Resource)) : Dict OwnedResource :=
  resources.foldl (fun entries entry => entries.insert entry.1 ⟨component, entry.2⟩) entries

/-- Resources are taken in without fail. -/
theorem run_takeIn (set : ResourceSet) (component : String)
    (resources : List (String × Resource)) :
    (takeIn component resources).run.run set =
      (.ok (), ⟨addAll component set.entries resources⟩) := by
  induction resources generalizing set with
  | nil => rfl
  | cons head rest ih =>
    obtain ⟨key, resource⟩ := head
    rw [takeIn, Outcome.run_bind]
    exact ih (set.insert component key resource)

/-- The check comes before the first resource is taken in. -/
theorem merge_eq (set : ResourceSet) (descriptor : Descriptor) :
    set.merge descriptor =
      match set.clash? descriptor with
      | some (key, owner) =>
        (.error (.duplicateResource key owner descriptor.component), set)
      | none =>
        (.ok (), ⟨addAll descriptor.component set.entries descriptor.resources.entries⟩) := by
  rw [merge, mergeSteps, Outcome.run_bind, run_check]
  cases set.clash? descriptor with
  | some clash => rfl
  | none => exact run_takeIn set descriptor.component descriptor.resources.entries

/-- A merge that fails leaves the set that it was given. -/
theorem eq_of_merge_error {set after : ResourceSet} {descriptor : Descriptor} {error : Error}
    (failed : set.merge descriptor = (.error error, after)) : after = set := by
  rw [merge_eq] at failed
  cases clash : set.clash? descriptor with
  | some found =>
    rw [clash] at failed
    exact (congrArg Prod.snd failed).symm
  | none =>
    rw [clash] at failed
    cases failed

theorem get?_addAll (component : String) (entries : Dict OwnedResource)
    {resources : List (String × Resource)} (sorted : Ascending resources) (key : String) :
    (addAll component entries resources).get? key =
      ((resources.lookup key).map (OwnedResource.mk component)).or (entries.get? key) := by
  induction resources generalizing entries with
  | nil => rfl
  | cons head rest ih =>
    obtain ⟨other, resource⟩ := head
    obtain ⟨above, restSorted⟩ := List.pairwise_cons.mp sorted
    rw [addAll, List.foldl_cons]
    change (addAll component (entries.insert other ⟨component, resource⟩) rest).get? key = _
    rw [ih _ restSorted, Dict.get?_insert, lookup_entry]
    by_cases same : key = other
    · have missing : rest.lookup key = none := not_lookup_of_above (same ▸ above)
      simp [same ▸ missing, same]
    · simp [same]

/-! ### One merge -/

/-- A descriptor that shares no key with those in the set is taken in. -/
theorem merge_eq_ok {set : ResourceSet} {descriptors : List Descriptor}
    (union : set.IsUnion descriptors) {descriptor : Descriptor}
    (apart : ∀ former ∈ descriptors, former.Apart descriptor) :
    ∃ merged, set.merge descriptor = (.ok (), merged) ∧
      merged.IsUnion (descriptors ++ [descriptor]) := by
  refine ⟨_, by rw [merge_eq, clash?_eq_none union apart], ?_⟩
  intro key owned
  rw [get?_addAll _ _ descriptor.resources.ascending]
  change ((descriptor.get? key).map _).or _ = _ ↔ _
  simp only [List.mem_append, List.mem_singleton, or_and_right, exists_or, exists_eq_left]
  cases held : descriptor.get? key with
  | none => simp [union key owned]
  | some resource =>
    have fresh : ∀ former ∈ descriptors, former.get? key = none := fun former member =>
      (apart former member).symm.get?_eq_none held
    constructor
    · intro same
      cases Option.some.inj same
      exact .inr ⟨rfl, rfl⟩
    · rintro (⟨former, member, _, found⟩ | ⟨component, found⟩)
      · exact absurd (found.symm.trans (fresh former member)) (by simp)
      · cases owned
        simp_all

/-- A shared key is an error, which names the least one and its first owner. -/
theorem merge_eq_error {set : ResourceSet} {descriptors : List Descriptor}
    (union : set.IsUnion descriptors) {descriptor owner : Descriptor} {key : String}
    (clash : LeastClash descriptors descriptor key owner) :
    set.merge descriptor =
      (.error (.duplicateResource key owner.component descriptor.component), set) := by
  rw [merge_eq, clash?_eq_some union clash]

end ResourceSet

end PlatformManifests
