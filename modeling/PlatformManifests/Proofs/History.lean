import Mathlib.Algebra.Ring.Nat
import Mathlib.Data.List.Induction
import Mathlib.Data.List.Perm.Basic
import PlatformManifests.Proofs.Descriptor
import PlatformManifests.Proofs.Merge

/-!
Resource sets over time. A set that starts empty and is offered one descriptor after the other
always holds the disjoint union of those that it took in, and one that it refuses leaves no trace.
-/
namespace PlatformManifests

open Descriptor

namespace Descriptor

/-- The descriptor was made from a list of resources. -/
def Built (descriptor : Descriptor) : Prop :=
  ∃ resources, ofResources descriptor.component resources = .ok descriptor

theorem Built.key_eq {descriptor : Descriptor} (built : descriptor.Built) {key : String}
    {resource : Resource} (held : descriptor.get? key = some resource) : resource.key = key := by
  obtain ⟨resources, made⟩ := built
  obtain ⟨_, _, lists⟩ := ofResources_eq_ok.mp made
  exact ((lists key resource).mp held).2

end Descriptor

/-! ### Counts -/

theorem countP_or {α : Type} {first second : α → Bool}
    (apart : ∀ item, first item = true → second item = false) (items : List α) :
    items.countP (fun item => first item || second item) =
      items.countP first + items.countP second := by
  induction items with
  | nil => rfl
  | cons head rest ih =>
    rw [List.countP_cons, List.countP_cons, List.countP_cons, ih]
    cases here : first head with
    | false =>
      rw [Bool.false_or]
      simp only [Bool.false_eq_true, if_false]
      omega
    | true =>
      rw [apart head here]
      simp only [Bool.or_false, if_true, Bool.false_eq_true, if_false]
      omega

namespace Kind

theorem name_inj {first second : Kind} : first.name = second.name ↔ first = second := by
  cases first <;> cases second <;> decide

theorem nodup_all : all.Nodup := by decide

theorem mem_all (kind : Kind) : kind ∈ all := by
  cases kind <;> decide

/-- The kinds that run containers. -/
def workloads : List Kind := [statefulSet, deployment, job]

theorem mem_workloads (kind : Kind) : kind ∈ workloads ↔ kind.isWorkload = true := by
  cases kind <;> decide

end Kind

namespace ResourceSet

/-- Kinds that are counted one by one are counted together. -/
theorem sum_countKind (set : ResourceSet) {kinds : List Kind} (distinct : kinds.Nodup) :
    (kinds.map fun kind => set.countKind kind.name).sum =
      set.entries.values.countP fun owned => owned.resource.kind ∈ kinds := by
  induction kinds with
  | nil => simp
  | cons head rest ih =>
    obtain ⟨alone, restDistinct⟩ := List.nodup_cons.mp distinct
    -- No entry is counted both for the first kind and for a later one.
    have apart : ∀ owned : OwnedResource, decide (owned.resource.kind = head) = true →
        decide (owned.resource.kind ∈ rest) = false := by
      intro owned same
      rw [of_decide_eq_true same]
      exact decide_eq_false alone
    rw [List.map_cons, List.sum_cons, ih restDistinct, countKind]
    simp only [Kind.name_inj, List.mem_cons, Bool.decide_or]
    exact (countP_or apart _).symm

theorem sum_countKind_all (set : ResourceSet) :
    (Kind.all.map fun kind => set.countKind kind.name).sum = set.size := by
  rw [set.sum_countKind Kind.nodup_all]
  simp only [Kind.mem_all, decide_true, List.countP_true]
  exact List.length_map _

theorem workloadCount_eq (set : ResourceSet) :
    set.workloadCount =
      set.countKind "StatefulSet" + set.countKind "Deployment" + set.countKind "Job" := by
  have counted := set.sum_countKind (by decide : Kind.workloads.Nodup)
  simp only [Kind.mem_workloads, Bool.decide_eq_true] at counted
  rw [workloadCount, Nat.add_assoc]
  exact counted.symm

/-! ### Sizes -/

theorem IsUnion.keys_perm {set : ResourceSet} {descriptors : List Descriptor}
    (union : set.IsUnion descriptors) (apart : descriptors.Pairwise Apart) :
    set.entries.keys.Perm (descriptors.flatMap fun descriptor => descriptor.resources.keys) := by
  have distinct : (descriptors.flatMap fun descriptor => descriptor.resources.keys).Nodup := by
    apply List.nodup_flatMap.mpr
    exact ⟨fun descriptor _ => descriptor.resources.keys_nodup, apart⟩
  apply (List.perm_ext_iff_of_nodup set.entries.keys_nodup distinct).mpr
  intro key
  rw [union.mem_keys, List.mem_flatMap]

theorem IsUnion.size_eq {set : ResourceSet} {descriptors : List Descriptor}
    (union : set.IsUnion descriptors) (apart : descriptors.Pairwise Apart) :
    set.size = (descriptors.map Descriptor.size).sum := by
  have same := (union.keys_perm apart).length_eq
  rw [List.length_flatMap] at same
  simp only [Dict.keys, List.length_map] at same
  exact same

theorem isEmpty_iff {set : ResourceSet} : set.isEmpty = true ↔ set.size = 0 := by
  rw [isEmpty, Dict.isEmpty, List.isEmpty_iff_length_eq_zero]
  rfl

end ResourceSet

/-! ### Runs -/

/-- A set, and the descriptors that it took in. -/
structure Ledger where
  set : ResourceSet
  accepted : List Descriptor

namespace Ledger

/-- Merges a descriptor into the set, and goes on with the set that the merge leaves. -/
def offer (ledger : Ledger) (descriptor : Descriptor) : Ledger :=
  match ledger.set.merge descriptor with
  | (.ok _, after) => ⟨after, ledger.accepted ++ [descriptor]⟩
  | (.error _, after) => ⟨after, ledger.accepted⟩

def run (offered : List Descriptor) : Ledger := offered.foldl offer ⟨∅, []⟩

theorem run_snoc (offered : List Descriptor) (descriptor : Descriptor) :
    run (offered ++ [descriptor]) = (run offered).offer descriptor := by
  rw [run, List.foldl_append]
  rfl

/-- The set is the disjoint union of the descriptors that were taken in. -/
structure Sound (ledger : Ledger) : Prop where
  union : ledger.set.IsUnion ledger.accepted
  apart : ledger.accepted.Pairwise Apart

/-- All that an offer can lead to. -/
inductive Step (ledger : Ledger) (descriptor : Descriptor) (after : Ledger) : Prop
  | taken (merged : ResourceSet) (done : ledger.set.merge descriptor = (.ok (), merged))
      (apart : ∀ former ∈ ledger.accepted, former.Apart descriptor)
      (union : merged.IsUnion (ledger.accepted ++ [descriptor]))
      (next : after = ⟨merged, ledger.accepted ++ [descriptor]⟩)
  | refused (key : String) (owner : Descriptor)
      (failed : ledger.set.merge descriptor =
        (.error (.duplicateResource key owner.component descriptor.component), ledger.set))
      (clash : LeastClash ledger.accepted descriptor key owner) (next : after = ledger)

theorem Sound.step {ledger : Ledger} (sound : ledger.Sound) (descriptor : Descriptor) :
    Step ledger descriptor (ledger.offer descriptor) := by
  by_cases apart : ∀ former ∈ ledger.accepted, former.Apart descriptor
  · obtain ⟨merged, done, union⟩ := ResourceSet.merge_eq_ok sound.union apart
    apply Step.taken merged done apart union
    rw [offer, done]
  · obtain ⟨key, owner, clash⟩ := exists_leastClash apart
    have failed := ResourceSet.merge_eq_error sound.union clash
    apply Step.refused key owner failed clash
    rw [offer, failed]

theorem Sound.offer {ledger : Ledger} (sound : ledger.Sound) (descriptor : Descriptor) :
    (ledger.offer descriptor).Sound := by
  cases sound.step descriptor with
  | taken merged done apart union next =>
    rw [next]
    refine ⟨union, List.pairwise_append.mpr ⟨sound.apart, List.pairwise_singleton _ _, ?_⟩⟩
    intro former member other last
    rw [List.mem_singleton.mp last]
    exact apart former member
  | refused key owner failed clash next =>
    rw [next]
    exact sound

/-- The induction is on the offers, with the last one taken off. -/
theorem sound_run (offered : List Descriptor) : (run offered).Sound := by
  induction offered using List.reverseRecOn with
  | nil => exact ⟨ResourceSet.isUnion_empty, .nil⟩
  | append_singleton earlier descriptor ih =>
    rw [run_snoc]
    exact ih.offer descriptor

theorem accepted_sublist (offered : List Descriptor) :
    (run offered).accepted.Sublist offered := by
  induction offered using List.reverseRecOn with
  | nil => exact List.nil_sublist []
  | append_singleton earlier descriptor ih =>
    rw [run_snoc]
    cases (sound_run earlier).step descriptor with
    | taken merged done apart union next =>
      rw [next]
      exact ih.append (List.Sublist.refl [descriptor])
    | refused key owner failed clash next =>
      rw [next]
      exact ih.trans (List.sublist_append_left earlier [descriptor])

/-- The first key of the descriptor that the set has, and the component that is recorded for it. -/
structure FirstTaken (set : ResourceSet) (descriptor : Descriptor) (key owner : String) :
    Prop where
  inside : key ∈ descriptor.resources.keys
  owned : set.componentOf? key = some owner
  least : ∀ other ∈ descriptor.resources.keys, other ∈ set.entries.keys → key ≤ other

theorem Sound.firstTaken {ledger : Ledger} (sound : ledger.Sound) {descriptor owner : Descriptor}
    {key : String} (clash : LeastClash ledger.accepted descriptor key owner) :
    FirstTaken ledger.set descriptor key owner.component := by
  refine ⟨clash.inside, ?_, ?_⟩
  · apply sound.union.componentOf?_eq_some_iff.mpr
    exact ⟨owner, clash.owned, rfl, clash.taken⟩
  · intro other inside present
    obtain ⟨former, member, inFormer⟩ := sound.union.mem_keys.mp present
    exact clash.least other inside former member inFormer

/-- A descriptor is taken in exactly if none of its keys is there. -/
theorem Sound.exists_merge_iff {ledger : Ledger} (sound : ledger.Sound)
    (descriptor : Descriptor) :
    (∃ merged, ledger.set.merge descriptor = (.ok (), merged)) ↔
      descriptor.resources.keys.Disjoint ledger.set.entries.keys := by
  cases sound.step descriptor with
  | taken merged done apart union next =>
    apply iff_of_true ⟨merged, done⟩
    intro key inside present
    obtain ⟨former, member, inFormer⟩ := sound.union.mem_keys.mp present
    exact apart former member inFormer inside
  | refused key owner failed clash next =>
    have present : key ∈ ledger.set.entries.keys :=
      sound.union.mem_keys.mpr ⟨owner, clash.owned, clash.taken⟩
    apply iff_of_false
    · rintro ⟨merged, done⟩
      rw [failed] at done
      cases done
    · intro disjoint
      exact disjoint clash.inside present

theorem Sound.refused {ledger : Ledger} (sound : ledger.Sound) {descriptor : Descriptor}
    {error : Error} {after : ResourceSet}
    (failed : ledger.set.merge descriptor = (.error error, after)) :
    ∃ key owner, FirstTaken ledger.set descriptor key owner ∧
      error = .duplicateResource key owner descriptor.component := by
  cases sound.step descriptor with
  | taken merged done apart union next =>
    rw [done] at failed
    cases failed
  | refused key owner reported clash next =>
    rw [reported] at failed
    cases failed
    exact ⟨key, owner.component, sound.firstTaken clash, rfl⟩

/-- What can be observed of the set is what the descriptors that were taken in say. -/
structure Refines (ledger : Ledger) : Prop where
  keyed : ∀ entry ∈ ledger.set.entries.entries, entry.2.resource.key = entry.1
  apart : ledger.accepted.Pairwise Apart
  found : ∀ key resource, ledger.set.get? key = some resource ↔
    ∃ descriptor ∈ ledger.accepted, descriptor.get? key = some resource
  owned : ∀ key component, ledger.set.componentOf? key = some component ↔
    ∃ descriptor ∈ ledger.accepted,
      descriptor.component = component ∧ key ∈ descriptor.resources.keys
  size : ledger.set.size = (ledger.accepted.map Descriptor.size).sum
  empty : ledger.set.isEmpty = true ↔ (ledger.accepted.map Descriptor.size).sum = 0
  kinds : (Kind.all.map fun kind => ledger.set.countKind kind.name).sum = ledger.set.size
  workloads : ledger.set.workloadCount = ledger.set.countKind "StatefulSet" +
    ledger.set.countKind "Deployment" + ledger.set.countKind "Job"

theorem Sound.refines {ledger : Ledger} (sound : ledger.Sound)
    (built : ∀ descriptor ∈ ledger.accepted, descriptor.Built) : ledger.Refines where
  keyed := by
    intro entry member
    have held := Dict.get?_eq_some_iff.mpr member
    obtain ⟨descriptor, inside, _, listed⟩ := (sound.union _ _).mp held
    exact (built descriptor inside).key_eq listed
  apart := sound.apart
  found := fun key resource => sound.union.get?_eq_some_iff
  owned := fun key component => sound.union.componentOf?_eq_some_iff
  size := sound.union.size_eq sound.apart
  empty := by
    rw [ResourceSet.isEmpty_iff, sound.union.size_eq sound.apart]
  kinds := ledger.set.sum_countKind_all
  workloads := ledger.set.workloadCount_eq

/-- Whatever was offered, the set refines the disjoint union of what was taken in. A further
descriptor is taken in if none of its keys is present. If it is refused, then the set that the merge
leaves is the one it was given, and the error names its first key that is present, the owner of that
key and its own component. Keys are equal exactly if kinds and names are. -/
theorem run_refines_union {offered : List Descriptor}
    (built : ∀ descriptor ∈ offered, descriptor.Built) :
    (run offered).Refines ∧ (run offered).accepted.Sublist offered ∧
    (∀ descriptor, (∃ merged, (run offered).set.merge descriptor = (.ok (), merged)) ↔
      descriptor.resources.keys.Disjoint (run offered).set.entries.keys) ∧
    (∀ descriptor merged, (run offered).set.merge descriptor = (.ok (), merged) →
      run (offered ++ [descriptor]) = ⟨merged, (run offered).accepted ++ [descriptor]⟩) ∧
    (∀ descriptor error after, (run offered).set.merge descriptor = (.error error, after) →
      after = (run offered).set ∧ run (offered ++ [descriptor]) = run offered ∧
      ∃ key owner, FirstTaken (run offered).set descriptor key owner ∧
        error = .duplicateResource key owner descriptor.component) ∧
    ∀ first second : Resource, first.key = second.key ↔
      first.kind.name = second.kind.name ∧ first.metadata.name = second.metadata.name := by
  have sound := sound_run offered
  have sublist := accepted_sublist offered
  have refined := sound.refines fun descriptor member => built descriptor (sublist.subset member)
  refine ⟨refined, sublist, sound.exists_merge_iff, ?_, ?_, ?_⟩
  · intro descriptor merged done
    rw [run_snoc, offer, done]
  · intro descriptor error after failed
    have unchanged := ResourceSet.eq_of_merge_error failed
    refine ⟨unchanged, ?_, sound.refused failed⟩
    rw [run_snoc, offer, failed, unchanged]
  · intro first second
    rw [Resource.key_inj, Kind.name_inj]
    rfl

/-! Two components that make the same account, the second beside some settings. -/

def account : Resource := .serviceAccount (.ofBody (.ofName "shared" "demo") ⟨none⟩)

def settings : Resource := .configMap (.ofBody (.ofName "b-config" "demo") ⟨∅⟩)

def former : Descriptor := ⟨"a", .ofList [(account.key, account)]⟩

def latter : Descriptor := ⟨"b", .ofList [(settings.key, settings), (account.key, account)]⟩

/-- The second component is refused with all that it makes. -/
theorem run_refines_union_shared :
    former.Built ∧ latter.Built ∧ (run [former, latter]).Refines ∧
      (run [former]).set.merge latter =
        (.error (.duplicateResource "serviceaccount/shared" "a" "b"), (run [former]).set) ∧
      run [former, latter] = run [former] := by
  have formerBuilt : former.Built := ⟨[account], by decide +kernel⟩
  have latterBuilt : latter.Built := ⟨[settings, account], by decide +kernel⟩
  have failed : (run [former]).set.merge latter =
      (.error (.duplicateResource "serviceaccount/shared" "a" "b"), (run [former]).set) := by
    decide +kernel
  have both : ∀ descriptor ∈ [former, latter], descriptor.Built := by
    simp [formerBuilt, latterBuilt]
  have one : ∀ descriptor ∈ [former], descriptor.Built := by
    simp [formerBuilt]
  obtain ⟨refined, _⟩ := run_refines_union both
  obtain ⟨_, _, _, _, refused, _⟩ := run_refines_union one
  obtain ⟨_, unchanged, _⟩ := refused latter _ _ failed
  exact ⟨formerBuilt, latterBuilt, refined, failed, unchanged⟩

end Ledger

end PlatformManifests
