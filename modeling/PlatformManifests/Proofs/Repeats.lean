import Mathlib.Data.List.Nodup
import Mathlib.Data.Nat.Find
import PlatformManifests.Proofs.Descriptor

/-!
Repeated keys. Resources whose keys are pairwise distinct make a descriptor, which holds each of
them and does not depend on their order. Of other resources the first one whose key came before is
reported, whatever the resources of that key say.
-/
namespace PlatformManifests

/-! ### Lists with repeated items -/

section Repeats

variable {α : Type} {items : List α} {index : Nat} {item : α}

/-- The item at the place stands at an earlier place as well. -/
def RepeatedAt (items : List α) (index : Nat) (item : α) : Prop :=
  items[index]? = some item ∧ item ∈ items.take index

/-- The first place whose item stands at an earlier place as well. -/
structure FirstRepeat (items : List α) (index : Nat) (item : α) : Prop where
  here : RepeatedAt items index item
  before : ∀ earlier < index, ∀ other, ¬ RepeatedAt items earlier other

theorem take_append_cons_drop (here : items[index]? = some item) :
    items.take index ++ item :: items.drop (index + 1) = items := by
  obtain ⟨bound, rfl⟩ := List.getElem?_eq_some_iff.mp here
  rw [List.getElem_cons_drop, List.take_append_drop]

theorem nodup_iff_not_repeatedAt :
    items.Nodup ↔ ∀ index item, ¬ RepeatedAt items index item := by
  rw [List.nodup_iff_getElem?_ne_getElem?]
  constructor
  · intro distinct index item repeated
    obtain ⟨here, again⟩ := repeated
    obtain ⟨bound, _⟩ := List.getElem?_eq_some_iff.mp here
    obtain ⟨earlier, less, same⟩ := List.mem_take_iff_getElem.mp again
    have former : items[earlier]? = some item := List.getElem?_eq_some_iff.mpr ⟨by omega, same⟩
    exact distinct earlier index (by omega) bound (former.trans here.symm)
  · intro unrepeated earlier index less bound same
    have here : items[index]? = some items[index] := List.getElem?_eq_getElem bound
    obtain ⟨inside, equal⟩ := List.getElem?_eq_some_iff.mp (same.trans here)
    have again : items[index] ∈ items.take index :=
      List.mem_take_iff_getElem.mpr ⟨earlier, by omega, equal⟩
    exact unrepeated index items[index] ⟨here, again⟩

theorem exists_firstRepeat (repeats : ¬ items.Nodup) :
    ∃ index item, FirstRepeat items index item := by
  classical
  rw [nodup_iff_not_repeatedAt] at repeats
  have somewhere : ∃ index item, RepeatedAt items index item := by
    by_contra nowhere
    exact repeats fun index item here => nowhere ⟨index, item, here⟩
  obtain ⟨item, here⟩ := Nat.find_spec somewhere
  refine ⟨Nat.find somewhere, item, here, ?_⟩
  intro earlier less other repeated
  exact Nat.find_min somewhere less ⟨other, repeated⟩

theorem FirstRepeat.nodup_take (first : FirstRepeat items index item) :
    (items.take index).Nodup := by
  apply nodup_iff_not_repeatedAt.mpr
  intro earlier other repeated
  obtain ⟨here, again⟩ := repeated
  rw [List.getElem?_take] at here
  split at here
  · rename_i less
    rw [List.take_take, Nat.min_eq_left (Nat.le_of_lt less)] at again
    exact first.before earlier less other ⟨here, again⟩
  · cases here

end Repeats

namespace Descriptor

variable {component : String} {resources : List Resource} {descriptor : Descriptor}

/-! ### What a descriptor holds -/

theorem Lists.perm (lists : descriptor.Lists resources) {permuted : List Resource}
    (same : resources.Perm permuted) : descriptor.Lists permuted := by
  intro key resource
  rw [lists key resource, same.mem_iff]

theorem Lists.keys_perm (lists : descriptor.Lists resources)
    (distinct : (resources.map Resource.key).Nodup) :
    descriptor.resources.keys.Perm (resources.map Resource.key) := by
  apply (List.perm_ext_iff_of_nodup descriptor.resources.keys_nodup distinct).mpr
  intro key
  rw [Dict.mem_keys, List.mem_map]
  exact exists_congr fun resource => lists key resource

/-- No resource takes the place of another one. -/
theorem Lists.size_eq (lists : descriptor.Lists resources)
    (distinct : (resources.map Resource.key).Nodup) : descriptor.size = resources.length := by
  have same := (lists.keys_perm distinct).length_eq
  rw [Dict.keys, List.length_map, List.length_map] at same
  exact same

/-! ### Collecting resources -/

theorem addAll_append (held : Dict Resource) (further : List Resource) :
    addAll component held (resources ++ further) =
      addAll component held resources >>= fun collected =>
        addAll component collected further := by
  induction resources generalizing held with
  | nil => rfl
  | cons first rest ih =>
    rw [List.cons_append, addAll, addAll]
    split
    · rfl
    · exact ih _

theorem addAll_of_firstRepeat {index : Nat} {key : String}
    (first : FirstRepeat (resources.map Resource.key) index key) :
    addAll component ∅ resources = .error (.duplicateResource key component component) := by
  obtain ⟨here, again⟩ := first.here
  have distinct := first.nodup_take
  rw [List.getElem?_map] at here
  obtain ⟨resource, found, rfl⟩ := Option.map_eq_some_iff.mp here
  rw [← List.map_take] at again distinct
  -- What was collected before that place holds the key, by whichever resource came with it.
  obtain ⟨collected, added⟩ := exists_addAll (fun _ _ => Dict.get?_empty _) distinct
  have holds := (addAll_eq_ok.mp added).2.2
  have taken : collected.contains resource.key = true := by
    obtain ⟨former, inside, same⟩ := List.mem_map.mp again
    rw [Dict.contains, (holds resource.key former).mpr (.inr ⟨inside, same⟩)]
    rfl
  rw [← take_append_cons_drop found, addAll_append, added]
  change addAll component collected (resource :: _) = _
  rw [addAll, if_pos taken]

theorem ofResources_of_firstRepeat {index : Nat} {key : String}
    (first : FirstRepeat (resources.map Resource.key) index key) :
    ofResources component resources = .error (.duplicateResource key component component) := by
  rw [ofResources, addAll_of_firstRepeat first]
  rfl

theorem ofResources_eq_error {error : Error} :
    ofResources component resources = .error error ↔
      ∃ index key, FirstRepeat (resources.map Resource.key) index key ∧
        error = .duplicateResource key component component := by
  constructor
  · intro failed
    have repeats : ¬ (resources.map Resource.key).Nodup := by
      intro distinct
      obtain ⟨descriptor, made⟩ := exists_ofResources_iff.mpr distinct
      rw [made] at failed
      cases failed
    obtain ⟨index, key, first⟩ := exists_firstRepeat repeats
    rw [ofResources_of_firstRepeat first] at failed
    cases failed
    exact ⟨index, key, first, rfl⟩
  · rintro ⟨index, key, first, rfl⟩
    exact ofResources_of_firstRepeat first

/-- Resources make a descriptor exactly if their keys are pairwise distinct. It belongs to the
component and holds each of them under its own key and nothing else, in whatever order they come.
Otherwise the error names the key of the first resource whose key came before, and the component
on both sides. -/
theorem ofResources_exact (component : String) (resources : List Resource) :
    ((∃ descriptor, ofResources component resources = .ok descriptor) ↔
      (resources.map Resource.key).Nodup) ∧
    (∀ descriptor, ofResources component resources = .ok descriptor →
      descriptor.component = component ∧ descriptor.Lists resources ∧
      descriptor.size = resources.length ∧
      ∀ permuted, resources.Perm permuted → ofResources component permuted = .ok descriptor) ∧
    (∀ error, ofResources component resources = .error error ↔
      ∃ index key, FirstRepeat (resources.map Resource.key) index key ∧
        error = .duplicateResource key component component) := by
  refine ⟨exists_ofResources_iff, ?_, fun error => ofResources_eq_error⟩
  intro descriptor made
  obtain ⟨owned, distinct, lists⟩ := ofResources_eq_ok.mp made
  refine ⟨owned, lists, lists.size_eq distinct, ?_⟩
  intro permuted same
  have stillDistinct := (same.map Resource.key).nodup_iff.mp distinct
  exact ofResources_eq_ok.mpr ⟨owned, stillDistinct, lists.perm same⟩

-- What counts is where a key comes again, and not where it came first.
example : ofResources "cache" (["a", "b", "b", "a"].map fun name =>
      .serviceAccount (.ofBody (.ofName name "demo") ⟨none⟩)) =
    .error (.duplicateResource "serviceaccount/b" "cache" "cache") := by
  decide +kernel

end Descriptor

end PlatformManifests
