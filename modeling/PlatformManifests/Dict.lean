/-!
Dictionaries with text keys, held in ascending key order.

Text is ordered by code points, which is also the order of its UTF-8 bytes. A dictionary is
determined by its lookups (`Dict.ext_get?`), so equal contents mean equal dictionaries, whatever
the order of insertion was.
-/
namespace PlatformManifests

/-- Keys that strictly increase from entry to entry. -/
def Ascending {α : Type} (entries : List (String × α)) : Prop :=
  entries.Pairwise fun first second => first.1 < second.1

instance {α : Type} (entries : List (String × α)) : Decidable (Ascending entries) :=
  inferInstanceAs (Decidable (entries.Pairwise fun first second => first.1 < second.1))

/-- Puts a value under a key, in place of an earlier value under the same key. -/
def insertEntry {α : Type} (key : String) (value : α) :
    List (String × α) → List (String × α)
  | [] => [(key, value)]
  | (other, held) :: rest =>
    if key < other then (key, value) :: (other, held) :: rest
    else if key = other then (key, value) :: rest
    else (other, held) :: insertEntry key value rest

theorem mem_insertEntry {α : Type} {key : String} {value : α} {entry : String × α}
    {entries : List (String × α)} (inside : entry ∈ insertEntry key value entries) :
    entry = (key, value) ∨ entry ∈ entries := by
  induction entries with
  | nil => simpa [insertEntry] using inside
  | cons head rest ih =>
    obtain ⟨other, held⟩ := head
    rw [insertEntry] at inside
    split at inside
    · simpa using inside
    · split at inside
      · rcases List.mem_cons.mp inside with same | later
        · exact .inl same
        · exact .inr (List.mem_cons_of_mem _ later)
      · rcases List.mem_cons.mp inside with same | later
        · exact .inr (same ▸ List.mem_cons_self)
        · exact (ih later).imp_right (List.mem_cons_of_mem _)

theorem lt_of_not_lt_of_ne {first second : String} (above : ¬ first < second)
    (differ : first ≠ second) : second < first := by
  rcases Decidable.em (second < first) with below | notBelow
  · exact below
  · exact absurd (String.le_antisymm (String.not_lt.mp notBelow) (String.not_lt.mp above)) differ

theorem ascending_insertEntry {α : Type} (key : String) (value : α)
    {entries : List (String × α)} (sorted : Ascending entries) :
    Ascending (insertEntry key value entries) := by
  induction entries with
  | nil => exact List.pairwise_singleton _ _
  | cons head rest ih =>
    obtain ⟨other, held⟩ := head
    have later := (List.pairwise_cons.mp sorted).1
    have restSorted := (List.pairwise_cons.mp sorted).2
    rw [insertEntry]
    split
    · rename_i below
      refine List.pairwise_cons.mpr ⟨?_, sorted⟩
      intro entry inside
      rcases List.mem_cons.mp inside with same | deeper
      · exact same ▸ below
      · exact String.lt_trans below (later entry deeper)
    · split
      · rename_i same
        refine List.pairwise_cons.mpr ⟨?_, restSorted⟩
        intro entry inside
        exact same ▸ later entry inside
      · rename_i above differ
        refine List.pairwise_cons.mpr ⟨?_, ih restSorted⟩
        intro entry inside
        rcases mem_insertEntry inside with same | deeper
        · exact same ▸ lt_of_not_lt_of_ne above differ
        · exact later entry deeper

theorem lookup_entry {α : Type} (asked key : String) (value : α) (rest : List (String × α)) :
    ((key, value) :: rest).lookup asked = if asked = key then some value else rest.lookup asked := by
  by_cases same : asked = key
  · simp [same]
  · have differ : (asked == key) = false := beq_false_of_ne same
    simp [List.lookup_cons, same, differ]

theorem lookup_insertEntry {α : Type} (key : String) (value : α) (asked : String)
    (entries : List (String × α)) :
    (insertEntry key value entries).lookup asked =
      if asked = key then some value else entries.lookup asked := by
  induction entries with
  | nil => simp [insertEntry, lookup_entry]
  | cons head rest ih =>
    obtain ⟨other, held⟩ := head
    rw [insertEntry]
    split
    · simp [lookup_entry]
    · split
      · rename_i equal
        by_cases same : asked = key <;> simp [lookup_entry, same, ← equal]
      · rename_i _ differ
        by_cases same : asked = other
        · subst same
          simp [Ne.symm differ]
        · simp [lookup_entry, same, ih]

/-- A finite map from text to values. -/
structure Dict (α : Type) where
  entries : List (String × α)
  ascending : Ascending entries
deriving DecidableEq

namespace Dict

variable {α β : Type}

def empty : Dict α := ⟨[], List.Pairwise.nil⟩

instance : EmptyCollection (Dict α) := ⟨empty⟩

instance : Inhabited (Dict α) := ⟨empty⟩

def insert (dict : Dict α) (key : String) (value : α) : Dict α :=
  ⟨insertEntry key value dict.entries, ascending_insertEntry key value dict.ascending⟩

/-- The dictionary of a list of entries; a later entry replaces an earlier one of its key. -/
def ofList (entries : List (String × α)) : Dict α :=
  entries.foldl (fun dict entry => dict.insert entry.1 entry.2) ∅

def get? (dict : Dict α) (key : String) : Option α := dict.entries.lookup key

def contains (dict : Dict α) (key : String) : Bool := (dict.get? key).isSome

def keys (dict : Dict α) : List String := dict.entries.map (·.1)

def values (dict : Dict α) : List α := dict.entries.map (·.2)

def size (dict : Dict α) : Nat := dict.entries.length

def isEmpty (dict : Dict α) : Bool := dict.entries.isEmpty

theorem ascending_map (change : α → β) {entries : List (String × α)}
    (sorted : Ascending entries) :
    Ascending (entries.map fun entry => (entry.1, change entry.2)) := by
  unfold Ascending
  rw [List.pairwise_map]
  exact sorted

/-- Changes every value and keeps every key. -/
def map (change : α → β) (dict : Dict α) : Dict β :=
  ⟨dict.entries.map fun entry => (entry.1, change entry.2), ascending_map change dict.ascending⟩

@[simp] theorem get?_empty (key : String) : (∅ : Dict α).get? key = none := rfl

@[simp] theorem get?_insert (dict : Dict α) (key : String) (value : α) (asked : String) :
    (dict.insert key value).get? asked = if asked = key then some value else dict.get? asked :=
  lookup_insertEntry key value asked dict.entries

theorem lookup_eq_some_iff {key : String} {value : α} {entries : List (String × α)}
    (sorted : Ascending entries) :
    entries.lookup key = some value ↔ (key, value) ∈ entries := by
  induction entries with
  | nil => simp
  | cons head rest ih =>
    obtain ⟨other, held⟩ := head
    have later := (List.pairwise_cons.mp sorted).1
    have restSorted := (List.pairwise_cons.mp sorted).2
    by_cases same : key = other
    · subst same
      have fresh : (key, value) ∉ rest := fun inside =>
        String.lt_irrefl key (later _ inside)
      simp [fresh, eq_comm]
    · simp [lookup_entry, same, ih restSorted]

theorem get?_eq_some_iff {dict : Dict α} {key : String} {value : α} :
    dict.get? key = some value ↔ (key, value) ∈ dict.entries :=
  lookup_eq_some_iff dict.ascending

theorem eq_of_ascending_of_mem_iff {first second : List (String × α)}
    (firstSorted : Ascending first) (secondSorted : Ascending second)
    (same : ∀ entry, entry ∈ first ↔ entry ∈ second) : first = second := by
  induction first generalizing second with
  | nil =>
    cases second with
    | nil => rfl
    | cons head rest => exact absurd ((same head).mpr List.mem_cons_self) List.not_mem_nil
  | cons head rest ih =>
    cases second with
    | nil => exact absurd ((same head).mp List.mem_cons_self) List.not_mem_nil
    | cons other others =>
      have restAbove := (List.pairwise_cons.mp firstSorted).1
      have othersAbove := (List.pairwise_cons.mp secondSorted).1
      have equal : head = other := by
        rcases List.mem_cons.mp ((same head).mp List.mem_cons_self) with this | deeper
        · exact this
        · rcases List.mem_cons.mp ((same other).mpr List.mem_cons_self) with this | lower
          · exact this.symm
          · exact absurd (othersAbove head deeper) (String.lt_asymm (restAbove other lower))
      subst equal
      refine congrArg (head :: ·) (ih (List.pairwise_cons.mp firstSorted).2
        (List.pairwise_cons.mp secondSorted).2 fun entry => ⟨fun inside => ?_, fun inside => ?_⟩)
      · rcases List.mem_cons.mp ((same entry).mp (List.mem_cons_of_mem _ inside)) with this | deeper
        · exact absurd (this ▸ restAbove entry inside) (String.lt_irrefl _)
        · exact deeper
      · rcases List.mem_cons.mp ((same entry).mpr (List.mem_cons_of_mem _ inside)) with this | deeper
        · exact absurd (this ▸ othersAbove entry inside) (String.lt_irrefl _)
        · exact deeper

/-- Dictionaries that answer every lookup alike are equal. -/
theorem ext_get? {first second : Dict α} (same : ∀ key, first.get? key = second.get? key) :
    first = second := by
  have entriesEqual : first.entries = second.entries :=
    eq_of_ascending_of_mem_iff first.ascending second.ascending fun entry =>
      (@get?_eq_some_iff _ first entry.1 entry.2).symm.trans
        ((Iff.of_eq (congrArg (· = some entry.2) (same entry.1))).trans
          (@get?_eq_some_iff _ second entry.1 entry.2))
  cases first
  cases second
  cases entriesEqual
  rfl

end Dict

end PlatformManifests
