import Mathlib.Data.List.Perm.Basic
import Mathlib.Data.Prod.Lex
import Mathlib.Data.String.Basic
import PlatformManifests.Proofs.History
import PlatformManifests.Proofs.Listing

/-!
What is applied, and in which order. A set applies each of its resources once, by rank and then by
key. Two histories that took in the same resources apply them in the same order, however these were
divided among components and whatever was refused in between.
-/
namespace PlatformManifests

theorem eq_of_pairwise_of_mem_iff {α : Type} {below : α → α → Prop}
    (asymm : ∀ {first second}, below first second → ¬ below second first) {items others : List α}
    (sorted : items.Pairwise below) (othersSorted : others.Pairwise below)
    (same : ∀ item, item ∈ items ↔ item ∈ others) : items = others := by
  have irreflexive : ∀ {item other}, below item other → item ≠ other := by
    rintro item _ lower rfl
    exact asymm lower lower
  have distinct : items.Nodup := sorted.imp irreflexive
  have othersDistinct : others.Nodup := othersSorted.imp irreflexive
  have permuted := (List.perm_ext_iff_of_nodup distinct othersDistinct).mpr same
  apply permuted.eq_of_pairwise ?_ sorted othersSorted
  intro item other _ _ lower upper
  exact absurd upper (asymm lower)

namespace ResourceSet

/-- The resources in the order in which they are applied, under their keys. -/
def applied (set : ResourceSet) : List (String × Resource) :=
  set.listing.map fun entry => (entry.1, entry.2.resource)

/-- By the rank of the kind, and by the key within a rank. -/
def AppliedBefore (first second : String × Resource) : Prop :=
  Prod.Lex (· < ·) (· < ·) (first.2.kind.rank, first.1) (second.2.kind.rank, second.1)

theorem appliedBefore_iff_below {first second : String × OwnedResource} :
    AppliedBefore (first.1, first.2.resource) (second.1, second.2.resource) ↔
      Below first second :=
  Prod.lex_def

theorem AppliedBefore.asymm {first second : String × Resource}
    (lower : AppliedBefore first second) : ¬ AppliedBefore second first := by
  intro upper
  rcases Prod.lex_def.mp lower with rank | ⟨same, key⟩
  · rcases Prod.lex_def.mp upper with higher | ⟨equal, _⟩ <;> omega
  · rcases Prod.lex_def.mp upper with higher | ⟨_, above⟩
    · omega
    · exact String.lt_asymm key above

theorem applied_pairwise (set : ResourceSet) : set.applied.Pairwise AppliedBefore := by
  unfold applied
  rw [List.pairwise_map]
  exact set.listing_pairwise.imp appliedBefore_iff_below.mpr

theorem mem_applied {set : ResourceSet} {key : String} {resource : Resource} :
    (key, resource) ∈ set.applied ↔ set.get? key = some resource := by
  rw [applied, List.mem_map, get?, Option.map_eq_some_iff]
  constructor
  · rintro ⟨entry, listed, same⟩
    cases same
    exact ⟨entry.2, mem_listing.mp listed, rfl⟩
  · rintro ⟨owned, held, rfl⟩
    exact ⟨(key, owned), mem_listing.mpr held, rfl⟩

theorem listing_perm (set : ResourceSet) : set.listing.Perm set.entries.entries := by
  have distinct : set.listing.Nodup := by
    apply set.listing_pairwise.imp
    rintro entry _ lower rfl
    exact lower.asymm lower
  have entriesDistinct : set.entries.entries.Nodup := set.entries.keys_nodup.of_map
  apply (List.perm_ext_iff_of_nodup distinct entriesDistinct).mpr
  intro entry
  rw [mem_listing, Dict.get?_eq_some_iff]

/-- The rank and the key of an entry; ranks are compared first. -/
def sortKey (entry : String × OwnedResource) : Nat ×ₗ String :=
  toLex (entry.2.resource.kind.rank, entry.1)

def notAfter (first second : String × OwnedResource) : Bool := sortKey first ≤ sortKey second

theorem notAfter_trans (first second third : String × OwnedResource)
    (lower : notAfter first second = true) (upper : notAfter second third = true) :
    notAfter first third = true :=
  decide_eq_true ((of_decide_eq_true lower).trans (of_decide_eq_true upper))

theorem notAfter_total (first second : String × OwnedResource) :
    (notAfter first second || notAfter second first) = true := by
  simpa [notAfter] using le_total (sortKey first) (sortKey second)

theorem notAfter_of_below {first second : String × OwnedResource} (lower : Below first second) :
    notAfter first second = true := by
  apply decide_eq_true
  have less : sortKey first < sortKey second := Prod.Lex.toLex_lt_toLex.mpr lower
  exact less.le

/-- Listing rank by rank is sorting by rank and key. A key stands in one entry only, so that there
are no ties. -/
theorem listing_eq_mergeSort (set : ResourceSet) :
    set.listing = set.entries.entries.mergeSort notAfter := by
  have listed := set.listing_pairwise.imp notAfter_of_below
  have sorted := List.pairwise_mergeSort notAfter_trans notAfter_total set.entries.entries
  have permuted := set.listing_perm.trans (List.mergeSort_perm _ notAfter).symm
  refine permuted.eq_of_pairwise ?_ listed sorted
  intro first second firstListed secondListed lower upper
  have keys : first.1 = second.1 := by
    have same := (of_decide_eq_true lower).antisymm (of_decide_eq_true upper)
    exact congrArg Prod.snd (toLex_inj.mp same)
  have firstHeld := mem_listing.mp firstListed
  have secondHeld := Dict.get?_eq_some_iff.mpr (List.mem_mergeSort.mp secondListed)
  rw [keys, secondHeld] at firstHeld
  exact Prod.ext keys (Option.some.inj firstHeld).symm
theorem applied_keys_nodup (set : ResourceSet) : (set.applied.map Prod.fst).Nodup := by
  have keys : (set.applied.map Prod.fst).Perm set.entries.keys := by
    rw [applied, List.map_map]
    exact set.listing_perm.map Prod.fst
  exact keys.nodup_iff.mpr set.entries.keys_nodup

theorem length_applied (set : ResourceSet) : set.applied.length = set.size := by
  rw [applied, List.length_map]
  exact set.listing_perm.length_eq

theorem documents_eq (set : ResourceSet) :
    set.documents = set.applied.map fun entry => entry.2.toJson := by
  rw [documents, applied, List.map_map]
  rfl

/-- The order has no memory of owners, or of how the set came about. -/
theorem applied_eq_of_get? {set other : ResourceSet}
    (same : ∀ key, set.get? key = other.get? key) : set.applied = other.applied := by
  apply eq_of_pairwise_of_mem_iff AppliedBefore.asymm set.applied_pairwise other.applied_pairwise
  rintro ⟨key, resource⟩
  rw [mem_applied, mem_applied, same]

/-- Each entry is applied once, in ascending order, and its document stands at its place. -/
structure Orderly (set : ResourceSet) : Prop where
  each : ∀ key resource, (key, resource) ∈ set.applied ↔ set.get? key = some resource
  once : (set.applied.map Prod.fst).Nodup
  ascending : set.applied.Pairwise AppliedBefore
  size : set.documents.length = set.size
  documents : ∀ index : Nat,
    set.documents[index]? = set.applied[index]?.map fun entry => entry.2.toJson

theorem orderly (set : ResourceSet) : set.Orderly where
  each := fun _ _ => mem_applied
  once := set.applied_keys_nodup
  ascending := set.applied_pairwise
  size := by
    rw [documents_eq, List.length_map, length_applied]
  documents := by
    intro index
    rw [documents_eq, List.getElem?_map]

end ResourceSet

namespace Ledger

open Descriptor

/-- Some descriptor that was taken in has the resource. -/
def Holds (ledger : Ledger) (resource : Resource) : Prop :=
  ∃ descriptor ∈ ledger.accepted, resource ∈ descriptor.resources.values

theorem mem_values_iff {descriptor : Descriptor} (built : descriptor.Built) {resource : Resource} :
    resource ∈ descriptor.resources.values ↔ descriptor.get? resource.key = some resource := by
  rw [Dict.values, List.mem_map]
  constructor
  · rintro ⟨⟨key, _⟩, member, rfl⟩
    have held : descriptor.get? key = some _ := Dict.get?_eq_some_iff.mpr member
    rw [built.key_eq held]
    exact held
  · intro held
    exact ⟨_, Dict.get?_eq_some_iff.mp held, rfl⟩

theorem get?_run_eq_some_iff {offered : List Descriptor}
    (built : ∀ descriptor ∈ offered, descriptor.Built) {key : String} {resource : Resource} :
    (run offered).set.get? key = some resource ↔
      (run offered).Holds resource ∧ resource.key = key := by
  have taken : ∀ descriptor ∈ (run offered).accepted, descriptor.Built := fun descriptor member =>
    built descriptor ((accepted_sublist offered).subset member)
  rw [(sound_run offered).union.get?_eq_some_iff]
  constructor
  · rintro ⟨descriptor, member, held⟩
    obtain rfl := (taken descriptor member).key_eq held
    exact ⟨⟨descriptor, member, (mem_values_iff (taken descriptor member)).mpr held⟩, rfl⟩
  · rintro ⟨⟨descriptor, member, inside⟩, rfl⟩
    exact ⟨descriptor, member, (mem_values_iff (taken descriptor member)).mp inside⟩

theorem get?_run_eq_of_holds_iff {offered others : List Descriptor}
    (built : ∀ descriptor ∈ offered, descriptor.Built)
    (othersBuilt : ∀ descriptor ∈ others, descriptor.Built)
    (same : ∀ resource, (run offered).Holds resource ↔ (run others).Holds resource)
    (key : String) : (run offered).set.get? key = (run others).set.get? key := by
  apply Option.ext
  intro resource
  rw [get?_run_eq_some_iff built, get?_run_eq_some_iff othersBuilt, same]

/-- A history leads to a set that is applied in good order. Any other history that took in the same
resources is applied alike, and written alike. -/
theorem run_applied_canonically {offered : List Descriptor}
    (built : ∀ descriptor ∈ offered, descriptor.Built) :
    (run offered).set.Orderly ∧
    ∀ others, (∀ descriptor ∈ others, descriptor.Built) →
      (∀ resource, (run offered).Holds resource ↔ (run others).Holds resource) →
      (run offered).set.applied = (run others).set.applied ∧
      (run offered).set.documents = (run others).set.documents ∧
      (run offered).set.toYaml = (run others).set.toYaml ∧
      (run offered).set.toJson = (run others).set.toJson := by
  refine ⟨(run offered).set.orderly, ?_⟩
  intro others othersBuilt same
  have applied : (run offered).set.applied = (run others).set.applied :=
    ResourceSet.applied_eq_of_get? (get?_run_eq_of_holds_iff built othersBuilt same)
  have documents : (run offered).set.documents = (run others).set.documents := by
    rw [ResourceSet.documents_eq, ResourceSet.documents_eq, applied]
  refine ⟨applied, documents, ?_, ?_⟩
  · rw [ResourceSet.toYaml, ResourceSet.toYaml, documents]
  · rw [ResourceSet.toJson, ResourceSet.toJson, documents]

def remainder : Descriptor := ⟨"c", .ofList [(settings.key, settings)]⟩

/-- An account and some settings from two components, with an offer refused in between, or both from
one component. -/
theorem run_applied_canonically_regrouped :
    (run [former, latter, remainder]).accepted = [former, remainder] ∧
      (run [latter]).accepted = [latter] ∧
      (run [former, latter, remainder]).set.applied = (run [latter]).set.applied ∧
      (run [former, latter, remainder]).set.toYaml = (run [latter]).set.toYaml := by
  have formerBuilt : former.Built := ⟨[account], by decide +kernel⟩
  have latterBuilt : latter.Built := ⟨[settings, account], by decide +kernel⟩
  have remainderBuilt : remainder.Built := ⟨[settings], by decide +kernel⟩
  have divided : (run [former, latter, remainder]).accepted = [former, remainder] := by
    decide +kernel
  have together : (run [latter]).accepted = [latter] := by decide +kernel
  have built : ∀ descriptor ∈ [former, latter, remainder], descriptor.Built := by
    simp [formerBuilt, latterBuilt, remainderBuilt]
  have formerValues : former.resources.values = [account] := by decide +kernel
  have latterValues : latter.resources.values = [settings, account] := by decide +kernel
  have remainderValues : remainder.resources.values = [settings] := by decide +kernel
  have same : ∀ resource, (run [former, latter, remainder]).Holds resource ↔
      (run [latter]).Holds resource := by
    intro resource
    simp [Holds, divided, together, formerValues, latterValues, remainderValues, or_comm]
  obtain ⟨_, canonical⟩ := run_applied_canonically built
  obtain ⟨applied, _, yaml, _⟩ := canonical [latter] (by simp [latterBuilt]) same
  exact ⟨divided, together, applied, yaml⟩

end Ledger

end PlatformManifests
