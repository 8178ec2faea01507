import Mathlib.Data.List.Basic
import PlatformManifests.Dict

/-!
Keys of dictionaries: which keys there are, that they ascend, and which is the first with a given
property.
-/
namespace PlatformManifests

theorem not_lookup_of_above {α : Type} {key : String} {entries : List (String × α)}
    (above : ∀ entry ∈ entries, key < entry.1) : entries.lookup key = none := by
  induction entries with
  | nil => rfl
  | cons head rest ih =>
    obtain ⟨other, held⟩ := head
    have below : key < other := above (other, held) List.mem_cons_self
    have differ : key ≠ other := fun same => String.lt_irrefl key (same ▸ below)
    rw [lookup_entry, if_neg differ]
    exact ih fun entry inside => above entry (List.mem_cons_of_mem _ inside)

theorem lookup_map_entries {α β : Type} (change : α → β) (key : String)
    (entries : List (String × α)) :
    (entries.map fun entry => (entry.1, change entry.2)).lookup key =
      (entries.lookup key).map change := by
  induction entries with
  | nil => rfl
  | cons head rest ih =>
    obtain ⟨other, held⟩ := head
    by_cases same : key = other <;> simp [lookup_entry, same, ih]

theorem lookup_eq_none_iff_not_mem {α : Type} {name : String} {entries : List (String × α)} :
    entries.lookup name = none ↔ name ∉ entries.map Prod.fst := by
  induction entries with
  | nil => simp
  | cons head rest ih =>
    obtain ⟨other, held⟩ := head
    rw [lookup_entry]
    by_cases same : name = other <;> simp [same, ih]

theorem lookup_eq_some_iff_mem {α : Type} {name : String} {value : α}
    {entries : List (String × α)} (distinct : (entries.map Prod.fst).Nodup) :
    entries.lookup name = some value ↔ (name, value) ∈ entries := by
  induction entries with
  | nil => simp
  | cons head rest ih =>
    obtain ⟨other, held⟩ := head
    obtain ⟨alone, restDistinct⟩ := List.nodup_cons.mp distinct
    rw [lookup_entry, List.mem_cons, Prod.mk.injEq]
    by_cases same : name = other
    · subst same
      have fresh : (name, value) ∉ rest := fun inside => alone (List.mem_map.mpr ⟨_, inside, rfl⟩)
      simp [fresh, eq_comm]
    · simp [same, ih restDistinct]

/-- In a list that ascends, what is found first is what is found at the least place. -/
theorem findSome?_eq_some_of_ascending {α : Type} {keys : List String}
    (sorted : keys.Pairwise (· < ·)) {search : String → Option α} {key : String} {found : α}
    (inside : key ∈ keys) (answer : search key = some found)
    (least : ∀ other ∈ keys, (search other).isSome → key ≤ other) :
    keys.findSome? search = some found := by
  induction keys with
  | nil => exact absurd inside List.not_mem_nil
  | cons head rest ih =>
    obtain ⟨above, restSorted⟩ := List.pairwise_cons.mp sorted
    rcases List.mem_cons.mp inside with same | later
    · rw [List.findSome?_cons, ← same, answer]
    · have missing : search head = none := by
        cases attempt : search head with
        | none => rfl
        | some other =>
          have below : key ≤ head := least head List.mem_cons_self (by simp [attempt])
          exact absurd (above key later) (String.not_lt.mpr below)
      rw [List.findSome?_cons, missing]
      exact ih restSorted later fun other member =>
        least other (List.mem_cons_of_mem _ member)

/-- If there is a place where something is found, then there is a least one. -/
theorem exists_least_of_ascending {keys : List String} (sorted : keys.Pairwise (· < ·))
    {found : String → Prop} (some : ∃ key ∈ keys, found key) :
    ∃ key ∈ keys, found key ∧ ∀ other ∈ keys, found other → key ≤ other := by
  classical
  induction keys with
  | nil => simp at some
  | cons head rest ih =>
    obtain ⟨above, restSorted⟩ := List.pairwise_cons.mp sorted
    by_cases here : found head
    · refine ⟨head, List.mem_cons_self, here, ?_⟩
      intro other member _
      rcases List.mem_cons.mp member with same | later
      · exact same ▸ String.le_refl head
      · exact String.not_lt.mp (String.lt_asymm (above other later))
    · have further : ∃ key ∈ rest, found key := by
        obtain ⟨key, inside, holds⟩ := some
        rcases List.mem_cons.mp inside with same | later
        · exact absurd (same ▸ holds) here
        · exact ⟨key, later, holds⟩
      obtain ⟨key, inside, holds, least⟩ := ih restSorted further
      refine ⟨key, List.mem_cons_of_mem _ inside, holds, ?_⟩
      intro other member otherHolds
      rcases List.mem_cons.mp member with same | later
      · exact absurd (same ▸ otherHolds) here
      · exact least other later otherHolds

namespace Dict

variable {α β : Type}

theorem mem_keys {dict : Dict α} {key : String} :
    key ∈ dict.keys ↔ ∃ value, dict.get? key = some value := by
  simp [keys, get?_eq_some_iff]

theorem not_mem_keys {dict : Dict α} {key : String} :
    key ∉ dict.keys ↔ dict.get? key = none := by
  rw [mem_keys, ← Option.isSome_iff_exists, Option.not_isSome_iff_eq_none]

theorem keys_ascending (dict : Dict α) : dict.keys.Pairwise (· < ·) := by
  unfold keys
  rw [List.pairwise_map]
  exact dict.ascending

theorem keys_nodup (dict : Dict α) : dict.keys.Nodup := by
  refine dict.keys_ascending.imp ?_
  rintro key _ below rfl
  exact String.lt_irrefl key below

@[simp] theorem get?_map (change : α → β) (dict : Dict α) (key : String) :
    (dict.map change).get? key = (dict.get? key).map change :=
  lookup_map_entries change key dict.entries

@[simp] theorem contains_map (change : α → β) (dict : Dict α) (key : String) :
    (dict.map change).contains key = dict.contains key := by
  rw [contains, get?_map, Option.isSome_map, contains]

@[simp] theorem keys_map (change : α → β) (dict : Dict α) :
    (dict.map change).keys = dict.keys := by
  simp [keys, Dict.map]

theorem map_insert (change : α → β) (dict : Dict α) (key : String) (value : α) :
    (dict.insert key value).map change = (dict.map change).insert key (change value) := by
  refine ext_get? fun other => ?_
  simp only [get?_map, get?_insert, apply_ite (Option.map change), Option.map_some]

theorem get?_foldl_insert {entries : List (String × α)} (distinct : (entries.map Prod.fst).Nodup)
    (start : Dict α) (name : String) :
    (entries.foldl (fun dict entry => dict.insert entry.1 entry.2) start).get? name =
      (entries.lookup name).or (start.get? name) := by
  induction entries generalizing start with
  | nil => simp
  | cons head rest ih =>
    obtain ⟨other, held⟩ := head
    obtain ⟨alone, restDistinct⟩ := List.nodup_cons.mp distinct
    rw [List.foldl_cons, ih restDistinct, lookup_entry, get?_insert]
    by_cases same : name = other
    · subst same
      rw [if_pos rfl, lookup_eq_none_iff_not_mem.mpr alone, if_pos rfl]
      rfl
    · rw [if_neg same, if_neg same]

/-- A dictionary answers like the list of entries that it is made of. -/
theorem get?_ofList {entries : List (String × α)} (distinct : (entries.map Prod.fst).Nodup)
    (name : String) : (ofList entries).get? name = entries.lookup name := by
  rw [ofList, get?_foldl_insert distinct, get?_empty, Option.or_none]

theorem ofList_entries (dict : Dict α) : ofList dict.entries = dict :=
  ext_get? fun name => get?_ofList dict.keys_nodup name

end Dict

end PlatformManifests
