import Mathlib.Data.List.Basic
import PlatformManifests.Proofs.Dictionary
import PlatformManifests.ResourceSet

/-!
The order in which resources are applied. A listing has all entries of its set, and ascends by rank
and by key within a rank. A part of a set that is chosen by component is listed in the same order.
-/
namespace PlatformManifests

theorem sublist_pair_of_pairwise {α : Type} {below : α → α → Prop}
    (asymm : ∀ {first second}, below first second → ¬ below second first) {items : List α}
    (sorted : items.Pairwise below) {first second : α} (firstInside : first ∈ items)
    (secondInside : second ∈ items) (lower : below first second) :
    [first, second].Sublist items := by
  induction items with
  | nil => cases firstInside
  | cons head rest ih =>
    obtain ⟨above, restSorted⟩ := List.pairwise_cons.mp sorted
    rcases List.mem_cons.mp firstInside with rfl | firstLater
    · rcases List.mem_cons.mp secondInside with rfl | secondLater
      · exact absurd lower (asymm lower)
      · apply List.Sublist.cons_cons
        exact List.singleton_sublist.mpr secondLater
    · rcases List.mem_cons.mp secondInside with rfl | secondLater
      · exact absurd lower (asymm (above first firstLater))
      · apply List.Sublist.cons
        exact ih restSorted firstLater secondLater

/-! ### Choosing from a dictionary -/

namespace Dict

variable {α : Type}

/-- Keeps the entries whose values are chosen. -/
def filter (chosen : α → Bool) (dict : Dict α) : Dict α :=
  ⟨dict.entries.filter fun entry => chosen entry.2, dict.ascending.filter _⟩

@[simp] theorem get?_filter (chosen : α → Bool) (dict : Dict α) (key : String) :
    (dict.filter chosen).get? key = (dict.get? key).filter chosen := by
  apply Option.ext
  intro value
  rw [get?_eq_some_iff, Option.filter_eq_some_iff, get?_eq_some_iff]
  exact List.mem_filter

end Dict

namespace Kind

theorem rank_le_lastRank (kind : Kind) : kind.rank ≤ lastRank := by
  cases kind <;> decide

end Kind

namespace ResourceSet

/-- The one entry comes before the other: its rank is lower, or its key is lower in the same
rank. -/
def Below (first second : String × OwnedResource) : Prop :=
  first.2.resource.kind.rank < second.2.resource.kind.rank ∨
    first.2.resource.kind.rank = second.2.resource.kind.rank ∧ first.1 < second.1

theorem Below.asymm {first second : String × OwnedResource} (lower : Below first second) :
    ¬ Below second first := by
  rintro (rank | ⟨_, key⟩)
  · rcases lower with lowerRank | ⟨same, _⟩ <;> omega
  · rcases lower with lowerRank | ⟨_, lowerKey⟩
    · omega
    · exact String.lt_asymm key lowerKey

theorem mem_listing {set : ResourceSet} {entry : String × OwnedResource} :
    entry ∈ set.listing ↔ set.entries.get? entry.1 = some entry.2 := by
  have ranked : entry.2.resource.kind.rank < Kind.lastRank + 1 :=
    Nat.lt_succ_of_le entry.2.resource.kind.rank_le_lastRank
  rw [Dict.get?_eq_some_iff]
  simp only [listing, ofRank, List.mem_flatMap, List.mem_range, List.mem_filter,
    decide_eq_true_eq]
  constructor
  · rintro ⟨_, _, member, _⟩
    exact member
  · intro member
    exact ⟨_, ranked, member, rfl⟩

theorem rank_eq_of_mem_ofRank {set : ResourceSet} {rank : Nat} {entry : String × OwnedResource}
    (member : entry ∈ set.ofRank rank) : entry.2.resource.kind.rank = rank := by
  rw [ofRank, List.mem_filter] at member
  exact of_decide_eq_true member.2

theorem ofRank_pairwise (set : ResourceSet) (rank : Nat) : (set.ofRank rank).Pairwise Below := by
  have keys : (set.ofRank rank).Pairwise fun first second => first.1 < second.1 :=
    set.entries.ascending.filter _
  apply keys.imp_of_mem
  intro first second firstMember secondMember lower
  have same := (rank_eq_of_mem_ofRank firstMember).trans (rank_eq_of_mem_ofRank secondMember).symm
  exact .inr ⟨same, lower⟩

/-- Ranks come one after the other, and the keys of a rank ascend. -/
theorem listing_pairwise (set : ResourceSet) : set.listing.Pairwise Below := by
  unfold listing
  apply List.pairwise_flatMap.mpr
  refine ⟨fun rank _ => set.ofRank_pairwise rank, ?_⟩
  apply List.pairwise_lt_range.imp
  intro rank higher lower first firstMember second secondMember
  apply Or.inl
  rw [rank_eq_of_mem_ofRank firstMember, rank_eq_of_mem_ofRank secondMember]
  exact lower

/-! ### Earlier and later -/

/-- The one key is listed before the other. -/
def Precedes (set : ResourceSet) (first second : String) : Prop :=
  [first, second].Sublist (set.listing.map Prod.fst)

theorem precedes_of_below {set : ResourceSet} {first second : String × OwnedResource}
    (firstHeld : set.entries.get? first.1 = some first.2)
    (secondHeld : set.entries.get? second.1 = some second.2) (lower : Below first second) :
    set.Precedes first.1 second.1 := by
  have firstListed := mem_listing.mpr firstHeld
  have secondListed := mem_listing.mpr secondHeld
  have listed := sublist_pair_of_pairwise Below.asymm set.listing_pairwise firstListed
    secondListed lower
  exact listed.map Prod.fst

/-- Where ranks do not decide, keys do. -/
theorem precedes_of_held {set : ResourceSet} {first second : String} {former latter : Resource}
    (firstHeld : set.get? first = some former) (secondHeld : set.get? second = some latter)
    (lower : former.kind.rank < latter.kind.rank ∨
      former.kind.rank = latter.kind.rank ∧ first < second) : set.Precedes first second := by
  obtain ⟨firstOwned, firstGiven, rfl⟩ := Option.map_eq_some_iff.mp firstHeld
  obtain ⟨secondOwned, secondGiven, rfl⟩ := Option.map_eq_some_iff.mp secondHeld
  have below : Below (first, firstOwned) (second, secondOwned) := lower
  exact precedes_of_below firstGiven secondGiven below

/-! ### Parts of a set -/

/-- The resources of some of the components. -/
def restrict (set : ResourceSet) (components : List String) : ResourceSet :=
  ⟨set.entries.filter fun owned => components.contains owned.component⟩

/-- The rest of the listing keeps its order. -/
theorem listing_restrict (set : ResourceSet) (components : List String) :
    (set.restrict components).listing =
      set.listing.filter fun entry => components.contains entry.2.component := by
  unfold listing
  rw [List.filter_flatMap]
  congr 1
  funext rank
  simp only [ofRank, restrict, Dict.filter, List.filter_filter, Bool.and_comm]

end ResourceSet

end PlatformManifests
